import LeaderRouting.Announcement
import LeaderRouting.Proofs.Message.RoundTrip
import LeaderRouting.Proofs.Net.Endpoint

/-!
A leader that is announced is the leader that is heard, whatever its address.
-/

namespace LeaderRouting

open Wire Message Net

namespace Member

theorem ofMessage?_toMessage (m : Member) : ofMessage? m.toMessage = some m := by
  rw [ofMessage?, toMessage, Endpoint.ofText?_text, Option.map_some]

theorem toMessage_injective : Function.Injective toMessage := by
  intro m m' h
  have hread := ofMessage?_toMessage m
  rw [h, ofMessage?_toMessage] at hread
  exact (Option.some.inj hread).symm

theorem id_of_ofMessage? {p : MemberMessage} {m : Member} (h : ofMessage? p = some m) : m.id = p.id := by
  obtain ⟨endpoint, -, rfl⟩ := Option.map_eq_some_iff.1 h
  rfl

end Member

namespace Announcement

/-- The bytes that announce a leader. -/
def encode (l : Leader) : Bytes :=
  LeaderElectEvent.schema.write (ofLeader l)

theorem leader_ofLeader (l : Leader) : leader (ofLeader l) = .ok (some l) := by
  simp only [leader, ofLeader, Member.ofMessage?_toMessage]

theorem decode_encode {l : Leader} (h : (encode l).length < UInt64.size) :
    decode (encode l) = .ok (some l) := by
  have hevent : LeaderElectEvent.schema.decode (encode l) = .ok (ofLeader l) :=
    MessageKind.IsEncoding.decode_eq (MessageKind.isEncoding_write .leaderElectEvent (ofLeader l))
      (LeaderElectEvent.lawful.length_write (ofLeader l) ▸ h)
  rw [decode, hevent]
  exact leader_ofLeader l

/-- Whether leaders and their members get through to whoever listens. -/
structure CarriesLeaders : Prop where
  /-- Every leader is heard as the one that was announced, with all of its address; an announcement
  is never as long as the bound. -/
  heard : ∀ l : Leader, (encode l).length < UInt64.size → decode (encode l) = .ok (some l)
  restored : ∀ m : Member, Member.ofMessage? m.toMessage = some m
  told_apart : ∀ {m m' : Member}, m.toMessage = m'.toMessage → m = m'
  endpoints_told_apart : ∀ {e e' : Endpoint}, e.text = e'.text → e = e'
  /-- An endpoint may come in another form than the one it is written in.  It leaves in that one, for
  the same member, and keeps it from then on. -/
  settled : ∀ {p : MemberMessage} {m : Member}, Member.ofMessage? p = some m →
    m.toMessage.id = p.id ∧
      ∃ m', Member.ofMessage? m.toMessage = some m' ∧ m' = m ∧ m'.toMessage = m.toMessage

theorem carriesLeaders : CarriesLeaders where
  heard _ h := decode_encode h
  restored := Member.ofMessage?_toMessage
  told_apart h := Member.toMessage_injective h
  endpoints_told_apart h := Endpoint.text_injective h
  settled {_ m} h := ⟨Member.id_of_ofMessage? h, m, m.ofMessage?_toMessage, rfl, rfl⟩

/-- A member whose address ends in that of an IPv4 host, with a scope. -/
def mappedMember : Member :=
  ⟨"", ⟨.v6 ⟨[0, 0, 0, 0, 0, 0xffff, 0x7f00, 1], rfl⟩ 3, 65535⟩⟩

/-- The address comes as eight groups and is heard under the highest term in its own form. -/
theorem carriesLeaders_of_mapped :
    Member.ofMessage? ⟨"", "[0:0:0:0:0:FFFF:7f00:0001%03]:065535"⟩ = some mappedMember ∧
      mappedMember.endpoint.text = "[::ffff:127.0.0.1%3]:65535" ∧
      decode (encode ⟨mappedMember, ⟨UInt64.ofNat (UInt64.size - 1)⟩⟩) =
        .ok (some ⟨mappedMember, ⟨UInt64.ofNat (UInt64.size - 1)⟩⟩) :=
  ⟨by decide +kernel, by decide +kernel, carriesLeaders.heard _ (by decide +kernel)⟩

end Announcement

end LeaderRouting
