import PatternExpr.Data.Store

/-! What a store holds after a history of insertions. -/
namespace PatternExpr.Store

def insertAll (s : Store) (entries : List (SectionId × List UInt8)) : Store :=
  entries.foldl (fun s entry => s.insert entry.1 entry.2) s

theorem insertAll_cons (s : Store) (entry : SectionId × List UInt8)
    (entries : List (SectionId × List UInt8)) :
    s.insertAll (entry :: entries) = (s.insert entry.1 entry.2).insertAll entries := rfl

/-- A section holds the last bytes inserted for it, or else what it held before. -/
theorem get?_insertAll (s : Store) (entries : List (SectionId × List UInt8)) (id : SectionId) :
    (s.insertAll entries).get? id = (entries.reverse.lookup id).or (s.get? id) := by
  induction entries generalizing s with
  | nil => rfl
  | cons entry entries ih =>
    obtain ⟨key, bytes⟩ := entry
    have hlast : (s.insert key bytes).get? id = ([(key, bytes)].lookup id).or (s.get? id) := by
      rw [get?_insert, List.lookup_cons]
      by_cases hk : id = key
      · simp [hk]
      · simp [hk, beq_eq_false_iff_ne.2 hk]
    rw [insertAll_cons, ih, hlast, List.reverse_cons, List.lookup_append, Option.or_assoc]

theorem read_eq_of_get?_eq {s t : Store} (h : ∀ id, s.get? id = t.get? id) : s.read = t.read := by
  funext r
  rw [read, read, h]

theorem get?_insertAll_congr {s t : Store} (h : ∀ id, s.get? id = t.get? id)
    (entries : List (SectionId × List UInt8)) (id : SectionId) :
    (s.insertAll entries).get? id = (t.insertAll entries).get? id := by
  rw [get?_insertAll, get?_insertAll, h]

end PatternExpr.Store
