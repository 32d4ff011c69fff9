/-! The bytes that patterns are decoded from. Bytes lie in numbered sections; a reader answers for a
range of one section, and a store is the reader that keeps its sections in memory. -/
namespace PatternExpr

structure SectionId where
  number : Nat
deriving DecidableEq

namespace SectionId

/-- The section that patterns lie in unless they say otherwise. -/
def main : SectionId := ⟨0⟩

def toText (s : SectionId) : String := s!"section {s.number}"

end SectionId

structure ByteRange where
  within : SectionId
  offset : Nat
  size : Nat
deriving DecidableEq

def hexText (n : Nat) : String := "0x" ++ String.ofList (Nat.toDigits 16 n)

/-- Why a range could not be read. -/
inductive ReadError
  | unknownSection (id : SectionId)
  | outOfBounds (range : ByteRange) (available : Nat)
  | other (message : String)
deriving DecidableEq

def ReadError.message : ReadError → String
  | .unknownSection id => s!"{id.toText} does not exist"
  | .outOfBounds r available =>
    s!"cannot read {r.size} bytes at offset {hexText r.offset} from {r.within.toText}: " ++
      s!"only {available} bytes available"
  | .other message => message

abbrev Reader := ByteRange → Except ReadError (List UInt8)

/-- Sections kept in memory, one entry for each section that exists. -/
structure Store where
  sections : List (SectionId × List UInt8)

namespace Store

def empty : Store := ⟨[]⟩

def get? (s : Store) (id : SectionId) : Option (List UInt8) := s.sections.lookup id

/-- Adds a section or replaces its bytes. -/
def insert (s : Store) (id : SectionId) (bytes : List UInt8) : Store :=
  ⟨(id, bytes) :: s.sections.filter fun entry => entry.1 != id⟩

def ofSections (entries : List (SectionId × List UInt8)) : Store :=
  entries.foldl (fun s entry => s.insert entry.1 entry.2) empty

def ofMain (bytes : List UInt8) : Store := empty.insert .main bytes

/-- A range is readable if it ends within its section; the empty range too must not start past the
end. -/
def read (s : Store) : Reader := fun r =>
  match s.get? r.within with
  | none => .error (.unknownSection r.within)
  | some bytes =>
    if r.offset + r.size ≤ bytes.length then .ok ((bytes.drop r.offset).take r.size)
    else .error (.outOfBounds r bytes.length)

/-- Reads as many bytes as the buffer holds into it; a failed read leaves it as it was. -/
def readInto (s : Store) (id : SectionId) (offset : Nat) (buffer : List UInt8) :
    Except ReadError Unit × List UInt8 :=
  match s.read ⟨id, offset, buffer.length⟩ with
  | .ok bytes => (.ok (), bytes)
  | .error e => (.error e, buffer)

@[simp] theorem get?_empty (id : SectionId) : empty.get? id = none := rfl

private theorem lookup_filter_ne {id other : SectionId} (h : other ≠ id)
    (entries : List (SectionId × List UInt8)) :
    (entries.filter fun entry => entry.1 != id).lookup other = entries.lookup other := by
  induction entries with
  | nil => rfl
  | cons entry rest ih =>
    obtain ⟨k, bytes⟩ := entry
    by_cases hk : k = id
    · subst hk
      simpa [List.lookup_cons, beq_eq_false_iff_ne.2 h] using ih
    · simp [hk, List.lookup_cons, ih]

/-- The last bytes inserted for a section are the ones it holds. -/
theorem get?_insert (s : Store) (id other : SectionId) (bytes : List UInt8) :
    (s.insert id bytes).get? other = if other = id then some bytes else s.get? other := by
  by_cases h : other = id
  · simp [get?, insert, h]
  · simp [get?, insert, List.lookup_cons, beq_eq_false_iff_ne.2 h, h, lookup_filter_ne h]

theorem length_of_read {s : Store} {r : ByteRange} {bytes : List UInt8} (h : s.read r = .ok bytes) :
    bytes.length = r.size := by
  unfold read at h
  split at h
  · cases h
  · split at h
    · cases h
      simp
      omega
    · cases h

end Store
end PatternExpr
