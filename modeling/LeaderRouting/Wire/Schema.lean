import LeaderRouting.Wire.Scalar
import LeaderRouting.Wire.Skip
import LeaderRouting.TextMap

/-!
Message types as lists of fields.  Writing a value writes its fields in turn; reading merges the
fields that come, in any order and any number of times, into a value that starts as the initial one.
-/

namespace LeaderRouting.Wire

/-- The sum of what `f` counts for each item. -/
def total {α : Type} (f : α → Nat) (l : List α) : Nat :=
  l.foldr (fun a n => f a + n) 0

/-- A part of a record: how to look at it and how to replace it. -/
structure Part (σ α : Type) where
  get : σ → α
  set : α → σ → σ

/-- A field of messages of type `σ`.  A choice between alternatives is one field with a number for
each of them. -/
structure Field (σ : Type) where
  name : String
  numbers : List Nat
  /-- The length of what `write` gives, computed without writing. -/
  size : σ → Nat
  write : σ → Bytes
  /-- Merges the payload after `key` into the message; `depth` bounds how deep it may be nested. -/
  read : (depth : Nat) → (key : Key) → σ → Reader σ

structure Schema (σ : Type) where
  name : String
  initial : σ
  fields : List (Field σ)

/-- Merges fields into `value` until `stop` bytes of the whole input are left. -/
def mergeFields {σ : Type} (stop : Nat) (field : Key → σ → Reader σ) (value : σ) (input : Bytes) :
    Except DecodeError (σ × Bytes) :=
  if input.length ≤ stop then
    if input.length = stop then .ok (value, input) else .error ⟨[], .overrun⟩
  else
    match hk : Key.read.run input with
    | .error e => .error e
    | .ok (key, rest) =>
      match hf : (field key value).run rest with
      | .error e => .error e
      | .ok (value', rest') =>
        have := Key.length_lt_of_read hk
        have := (field key value).length_le hf
        mergeFields stop field value' rest'
termination_by input.length

theorem length_le_of_mergeFields {σ : Type} {stop : Nat} {field : Key → σ → Reader σ}
    {value value' : σ} {input rest : Bytes}
    (h : mergeFields stop field value input = .ok (value', rest)) :
    rest.length ≤ input.length := by
  fun_induction mergeFields stop field value input with
  | case1 =>
    cases h
    exact Nat.le_refl _
  | case2 => cases h
  | case3 => cases h
  | case4 => cases h
  | case5 _ _ _ _ _ _ _ _ _ _ _ ih =>
    have := ih h
    omega

/-- A nested message: its length, then fields that end exactly there. -/
def readNested {σ : Type} (field : Key → σ → Reader σ) (value : σ) : Reader σ := do
  let length ← Varint.read
  let left ← Reader.remaining
  if left < length then
    Reader.fail .underflow
  else
    ⟨mergeFields (left - length) field value, length_le_of_mergeFields⟩

namespace Schema

variable {σ : Type}

def write (s : Schema σ) (value : σ) : Bytes :=
  s.fields.flatMap (·.write value)

def size (s : Schema σ) (value : σ) : Nat :=
  total (·.size value) s.fields

/-- Merges the payload after `key` into the message, or passes over it if no field has that number. -/
def readField (s : Schema σ) (depth : Nat) (key : Key) (value : σ) : Reader σ :=
  match s.fields.find? (·.numbers.contains key.number) with
  | some f => (f.read depth key value).within ⟨s.name, f.name⟩
  | none => do
    skipField depth key
    pure value

/-- Merges a nested message into `value`. -/
def merge (s : Schema σ) : (depth : Nat) → σ → Reader σ
  | 0, _ => Reader.fail .tooDeep
  | depth + 1, value => readNested (s.readField depth) value

/-- How deep messages and groups may be nested. -/
def depthLimit : Nat := 100

/-- The message that the whole input encodes. -/
def decode (s : Schema σ) (input : Bytes) : Except DecodeError σ :=
  match mergeFields 0 (s.readField depthLimit) s.initial input with
  | .error e => .error e
  | .ok (value, _) => .ok value

end Schema

namespace Field

variable {σ α τ : Type}

/-- A field whose initial value is left out. -/
def scalar [DecidableEq α] (name : String) (number : Nat) (kind : Scalar α) (part : Part σ α) :
    Field σ where
  name
  numbers := [number]
  size v := if part.get v = kind.initial then 0 else kind.fieldSize number (part.get v)
  write v := if part.get v = kind.initial then [] else kind.writeField number (part.get v)
  read _ key v := do
    return part.set (← kind.readField key) v

/-- A list of values, each in a field of its own. -/
def repeated (name : String) (number : Nat) (kind : Scalar α) (part : Part σ (List α)) :
    Field σ where
  name
  numbers := [number]
  size v := total (kind.fieldSize number) (part.get v)
  write v := (part.get v).flatMap (kind.writeField number)
  read _ key v := do
    return part.set (part.get v ++ [← kind.readField key]) v

def writeMessage (s : Schema τ) (number : Nat) (m : τ) : Bytes :=
  Key.write ⟨number, .lengthDelimited⟩ ++ delimit (s.write m)

def messageSize (s : Schema τ) (number : Nat) (m : τ) : Nat :=
  Key.size ⟨number, .lengthDelimited⟩ + Varint.size (s.size m) + s.size m

def readMessage (s : Schema τ) (depth : Nat) (key : Key) (m : τ) : Reader τ := do
  expect .lengthDelimited key.wireType
  s.merge depth m

/-- A message that may be absent.  A second occurrence merges into the first. -/
def message (name : String) (number : Nat) (nested : Schema τ) (part : Part σ (Option τ)) :
    Field σ where
  name
  numbers := [number]
  size v := match part.get v with
    | none => 0
    | some m => messageSize nested number m
  write v := match part.get v with
    | none => []
    | some m => writeMessage nested number m
  read depth key v := do
    return part.set (some (← readMessage nested depth key ((part.get v).getD nested.initial))) v

/-- A list of messages, each in a field of its own. -/
def messages (name : String) (number : Nat) (nested : Schema τ) (part : Part σ (List τ)) :
    Field σ where
  name
  numbers := [number]
  size v := total (messageSize nested number) (part.get v)
  write v := (part.get v).flatMap (writeMessage nested number)
  read depth key v := do
    return part.set (part.get v ++ [← readMessage nested depth key nested.initial]) v

/-- One of the alternatives of a choice: the values of `ω` that `embed` makes of a payload. -/
structure Alternative (ω : Type) where
  number : Nat
  read : Key → Reader ω

def Alternative.of (number : Nat) (kind : Scalar α) (embed : α → ω) : Alternative ω where
  number
  read key := do
    return embed (← kind.readField key)

/-- A choice that may be open.  Whatever is chosen is written, also an initial value; of several
alternatives that come the last one counts. -/
def choice {ω : Type} (name : String) (alternatives : List (Alternative ω)) (size : ω → Nat)
    (write : ω → Bytes) (part : Part σ (Option ω)) : Field σ where
  name
  numbers := alternatives.map (·.number)
  size v := match part.get v with
    | none => 0
    | some c => size c
  write v := match part.get v with
    | none => []
    | some c => write c
  read _ key v := do
    match alternatives.find? (·.number = key.number) with
    | none => return v
    | some a => return part.set (some (← a.read key)) v

/-- What an entry of a map is written as: the key, then the value, each only if not the initial one. -/
def entryBytes [DecidableEq τ] (s : Schema τ) (e : String × τ) : Bytes :=
  (if e.1 = "" then [] else Scalar.text.writeField 1 e.1)
    ++ (if e.2 = s.initial then [] else writeMessage s 2 e.2)

def entrySize [DecidableEq τ] (s : Schema τ) (e : String × τ) : Nat :=
  (if e.1 = "" then 0 else Scalar.text.fieldSize 1 e.1)
    + (if e.2 = s.initial then 0 else messageSize s 2 e.2)

def readEntry (s : Schema τ) (depth : Nat) (key : Key) (e : String × τ) : Reader (String × τ) :=
  match key.number with
  | 1 => do return (← Scalar.text.readField key, e.2)
  | 2 => do return (e.1, ← readMessage s depth key e.2)
  | _ => do
    skipField depth key
    pure e

/-- The entries of a map in the order given, each as a field of its own. -/
def writeEntries [DecidableEq τ] (number : Nat) (s : Schema τ) (entries : List (String × τ)) :
    Bytes :=
  entries.flatMap fun e => Key.write ⟨number, .lengthDelimited⟩ ++ delimit (entryBytes s e)

/-- A map from texts to messages.  The last entry for a key counts, and an entry is read as if
length-delimited whatever its key announces. -/
def entries [DecidableEq τ] (name : String) (number : Nat) (nested : Schema τ)
    (part : Part σ (TextMap τ)) : Field σ where
  name
  numbers := [number]
  size v := total (fun e => Key.size ⟨number, .lengthDelimited⟩ + Varint.size (entrySize nested e)
    + entrySize nested e) (part.get v).entries
  write v := writeEntries number nested (part.get v).entries
  read
    | 0, _, _ => Reader.fail .tooDeep
    | depth + 1, _, v => do
      let e ← readNested (readEntry nested depth) ("", nested.initial)
      return part.set ((part.get v).insert e.1 e.2) v

end Field

end LeaderRouting.Wire
