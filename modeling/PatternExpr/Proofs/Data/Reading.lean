import PatternExpr.Proofs.Data.History
import PatternExpr.Proofs.Data.Ranges

/-! Reading back what was inserted. A buffer is filled from the bytes that were inserted last for its
section if the range ends within them, and is otherwise left alone. Neighbouring ranges can be read
together or one after the other. -/
namespace PatternExpr
namespace Store

/-- These bytes were inserted for the section, and none after them. -/
def LastInserted (history : List (SectionId × List UInt8)) (id : SectionId) (bytes : List UInt8) :
    Prop :=
  ∃ earlier later, history = earlier ++ (id, bytes) :: later ∧ ∀ entry ∈ later, entry.1 ≠ id

/-- The end of a range in 64-bit words; none if no word reaches it. -/
def checkedEnd? (offset size : BitVec 64) : Option (BitVec 64) :=
  if offset.uaddOverflow size then none else some (offset + size)

theorem insertAll_append (s : Store) (earlier later : List (SectionId × List UInt8)) :
    s.insertAll (earlier ++ later) = (s.insertAll earlier).insertAll later := List.foldl_append

section

variable {s : Store} {id : SectionId} {history : List (SectionId × List UInt8)} {bytes : List UInt8}

theorem get?_insertAll_of_ne (h : ∀ entry ∈ history, entry.1 ≠ id) :
    (s.insertAll history).get? id = s.get? id := by
  induction history generalizing s with
  | nil => rfl
  | cons entry later ih =>
    obtain ⟨hentry, hlater⟩ := List.forall_mem_cons.1 h
    rw [insertAll_cons, ih hlater, get?_insert, if_neg hentry.symm]

theorem get?_insertAll_of_lastInserted (h : LastInserted history id bytes) :
    (s.insertAll history).get? id = some bytes := by
  obtain ⟨earlier, later, rfl, hlater⟩ := h
  rw [insertAll_append, insertAll_cons, get?_insertAll_of_ne hlater, get?_insert, if_pos rfl]

theorem exists_lastInserted (h : ∃ entry ∈ history, entry.1 = id) :
    ∃ bytes, LastInserted history id bytes := by
  induction history with
  | nil => simp at h
  | cons entry later ih =>
    by_cases hlater : ∃ e ∈ later, e.1 = id
    · obtain ⟨bytes, earlier, rest, heq, hrest⟩ := ih hlater
      exact ⟨bytes, entry :: earlier, rest, congrArg (entry :: ·) heq, hrest⟩
    · have hentry : entry.1 = id := by
        obtain ⟨e, he, hid⟩ := h
        rcases List.mem_cons.1 he with rfl | he
        · exact hid
        · exact absurd ⟨e, he, hid⟩ hlater
      refine ⟨entry.2, [], later, ?_, fun e he hid => hlater ⟨e, he, hid⟩⟩
      rw [← hentry]
      rfl

end

section

variable {s : Store} {id : SectionId} {offset : Nat} {buffer bytes : List UInt8}

theorem holds_iff_of_get? {r : ByteRange} (hbytes : s.get? r.within = some bytes) :
    s.Holds r ↔ r.offset + r.size ≤ bytes.length := by
  constructor
  · rintro ⟨bytes', hbytes', hle⟩
    cases hbytes.symm.trans hbytes'
    exact hle
  · exact fun hle => ⟨bytes, hbytes, hle⟩

theorem readInto_of_fits (hbytes : s.get? id = some bytes)
    (hle : offset + buffer.length ≤ bytes.length) :
    s.readInto id offset buffer = (.ok (), (bytes.drop offset).take buffer.length) := by
  have hread : s.read ⟨id, offset, buffer.length⟩ = .ok ((bytes.drop offset).take buffer.length) := by
    unfold read
    rw [hbytes]
    exact if_pos hle
  rw [readInto, hread]

theorem readInto_of_not_holds (h : ¬ s.Holds ⟨id, offset, buffer.length⟩) :
    s.readInto id offset buffer = (.error (s.failure ⟨id, offset, buffer.length⟩), buffer) := by
  rw [readInto, read_of_not_holds h]

theorem readInto_of_exceeds (hbytes : s.get? id = some bytes)
    (hlt : ¬ offset + buffer.length ≤ bytes.length) :
    s.readInto id offset buffer =
      (.error (.outOfBounds ⟨id, offset, buffer.length⟩ bytes.length), buffer) := by
  rw [readInto_of_not_holds (mt (holds_iff_of_get? hbytes).1 hlt), failure, hbytes]

theorem fst_readInto_eq_ok_iff :
    (s.readInto id offset buffer).1 = .ok () ↔ s.Holds ⟨id, offset, buffer.length⟩ := by
  constructor
  · refine fun h => Classical.byContradiction fun hnot => ?_
    rw [readInto_of_not_holds hnot] at h
    cases h
  · rintro ⟨bytes, hbytes, hle⟩
    rw [readInto_of_fits hbytes hle]

theorem snd_readInto_of_error {e : ReadError} (h : (s.readInto id offset buffer).1 = .error e) :
    (s.readInto id offset buffer).2 = buffer := by
  have hnot : ¬ s.Holds ⟨id, offset, buffer.length⟩ := by
    intro hheld
    rw [fst_readInto_eq_ok_iff.2 hheld] at h
    cases h
  rw [readInto_of_not_holds hnot]

theorem fst_readInto_eq_unknownSection_iff {other : SectionId} :
    (s.readInto id offset buffer).1 = .error (.unknownSection other) ↔
      other = id ∧ s.get? id = none := by
  cases hbytes : s.get? id with
  | none =>
    have hnot : ¬ s.Holds ⟨id, offset, buffer.length⟩ :=
      fun ⟨_, hsome, _⟩ => nomatch hbytes.symm.trans hsome
    rw [readInto_of_not_holds hnot, failure, hbytes]
    simp [eq_comm]
  | some bytes =>
    by_cases hle : offset + buffer.length ≤ bytes.length
    · rw [readInto_of_fits hbytes hle]
      simp
    · rw [readInto_of_exceeds hbytes hle]
      simp

end

theorem holds_add_iff (s : Store) (id : SectionId) (offset m n : Nat) :
    s.Holds ⟨id, offset, m + n⟩ ↔ s.Holds ⟨id, offset, m⟩ ∧ s.Holds ⟨id, offset + m, n⟩ := by
  have hparts (length : Nat) : offset + (m + n) ≤ length ↔
      offset + m ≤ length ∧ offset + m + n ≤ length := by omega
  constructor
  · rintro ⟨bytes, hbytes, hle⟩
    obtain ⟨hm, hn⟩ := (hparts bytes.length).1 hle
    exact ⟨⟨bytes, hbytes, hm⟩, ⟨bytes, hbytes, hn⟩⟩
  · rintro ⟨-, bytes, hbytes, hle⟩
    exact ⟨bytes, hbytes, (hparts bytes.length).2 ⟨Nat.le_trans (Nat.le_add_right _ n) hle, hle⟩⟩

theorem readInto_append (s : Store) (id : SectionId) (offset : Nat) {whole first second : List UInt8}
    (hlength : whole.length = first.length + second.length) :
    ((s.readInto id offset whole).1 = .ok () ↔ (s.readInto id offset first).1 = .ok () ∧
      (s.readInto id (offset + first.length) second).1 = .ok ()) ∧
    ((s.readInto id offset whole).1 = .ok () → (s.readInto id offset whole).2 =
      (s.readInto id offset first).2 ++ (s.readInto id (offset + first.length) second).2) := by
  simp only [fst_readInto_eq_ok_iff]
  refine ⟨by rw [hlength, holds_add_iff], ?_⟩
  rintro ⟨bytes, hbytes, hle⟩
  dsimp only at hbytes hle
  have hfirst : offset + first.length ≤ bytes.length := by omega
  have hsecond : offset + first.length + second.length ≤ bytes.length := by omega
  rw [readInto_of_fits hbytes hle, readInto_of_fits hbytes hfirst, readInto_of_fits hbytes hsecond,
    hlength, List.take_add, List.drop_drop]

/-- Checked words find the end of a range wherever something could lie there. -/
theorem exists_checkedEnd?_iff {offset size : BitVec 64} {length : Nat}
    (hlength : length < UInt64.size) :
    (∃ stop, checkedEnd? offset size = some stop ∧ stop.toNat ≤ length) ↔
      offset.toNat + size.toNat ≤ length := by
  have hsize : UInt64.size = 2 ^ 64 := rfl
  unfold checkedEnd?
  cases hcarry : offset.uaddOverflow size with
  | true =>
    have hbeyond : 2 ^ 64 ≤ offset.toNat + size.toNat := by
      simpa [BitVec.uaddOverflow] using hcarry
    simp
    omega
  | false =>
    have hwithin : offset.toNat + size.toNat < 2 ^ 64 := by
      simpa [BitVec.uaddOverflow] using hcarry
    have hstop : (offset + size).toNat = offset.toNat + size.toNat := BitVec.toNat_add_of_lt hwithin
    simp [hstop]

/-- Whatever was inserted in whatever order, a read of a section knows its last bytes and nothing else.
A section that was never inserted is unknown. Of any other the range is read if it ends within the last
bytes, which checked 64-bit words find out just as well, and then the whole buffer holds the bytes of the
range. A read that fails leaves the buffer alone. Neighbouring ranges can be read as one or one after the
other. -/
theorem reads_of_history (history : List (SectionId × List UInt8)) (id : SectionId) (offset : Nat)
    (buffer : List UInt8) :
    let store := Store.empty.insertAll history
    let answer := store.readInto id offset buffer
    (∀ other, answer.1 = .error (.unknownSection other) ↔
      other = id ∧ ∀ entry ∈ history, entry.1 ≠ id) ∧
    (∀ e, answer.1 = .error e → answer.2 = buffer) ∧
    ((∃ entry ∈ history, entry.1 = id) → ∃ bytes, LastInserted history id bytes) ∧
    (∀ bytes, LastInserted history id bytes →
      let fits := offset + buffer.length ≤ bytes.length
      (answer.1 = .ok () ↔ fits) ∧
      (fits → answer.2.length = buffer.length ∧
        ∀ i < buffer.length, answer.2[i]? = bytes[offset + i]?) ∧
      (¬ fits → answer = (.error (.outOfBounds ⟨id, offset, buffer.length⟩ bytes.length), buffer)) ∧
      (bytes.length < UInt64.size → ∀ start size : BitVec 64, start.toNat = offset →
        size.toNat = buffer.length →
          (answer.1 = .ok () ↔
            ∃ stop, checkedEnd? start size = some stop ∧ stop.toNat ≤ bytes.length))) ∧
    ∀ whole first second : List UInt8, whole.length = first.length + second.length →
      let both := store.readInto id offset whole
      let front := store.readInto id offset first
      let back := store.readInto id (offset + first.length) second
      (both.1 = .ok () ↔ front.1 = .ok () ∧ back.1 = .ok ()) ∧
      (both.1 = .ok () → both.2 = front.2 ++ back.2) := by
  intro store answer
  refine ⟨fun other => ?_, fun e => snd_readInto_of_error, exists_lastInserted, fun bytes h => ?_,
    fun whole first second => readInto_append store id offset⟩
  · have hnever : store.get? id = none ↔ ∀ entry ∈ history, entry.1 ≠ id := by
      constructor
      · intro hnone entry hentry hid
        obtain ⟨bytes, hlast⟩ := exists_lastInserted ⟨entry, hentry, hid⟩
        have hbytes : store.get? id = some bytes := get?_insertAll_of_lastInserted hlast
        cases hnone.symm.trans hbytes
      · exact get?_insertAll_of_ne
    rw [← hnever]
    exact fst_readInto_eq_unknownSection_iff
  · have hbytes : store.get? id = some bytes := get?_insertAll_of_lastInserted h
    have hok : answer.1 = .ok () ↔ offset + buffer.length ≤ bytes.length :=
      fst_readInto_eq_ok_iff.trans (holds_iff_of_get? hbytes)
    refine ⟨hok, fun hle => ?_, readInto_of_exceeds hbytes, fun hlength start size hstart hsize => ?_⟩
    · have hanswer : answer = (.ok (), (bytes.drop offset).take buffer.length) :=
        readInto_of_fits hbytes hle
      rw [hanswer]
      refine ⟨by simp; omega, fun i hi => ?_⟩
      rw [List.getElem?_take_of_lt hi, List.getElem?_drop]
    · rw [hok, exists_checkedEnd?_iff hlength, hstart, hsize]

/-- The main section is inserted twice, the second time with fewer bytes. -/
def replacedMain : List (SectionId × List UInt8) := [(.main, [1, 2, 3]), (⟨7⟩, [9]), (.main, [4, 5])]

/-- The last read starts at the greatest word, so that its end as a word would be 1 again. -/
theorem reads_of_history_replacedMain :
    let read := (Store.empty.insertAll replacedMain).readInto
    ((read .main 0 [0, 0]).1 = .ok () ∧ (read .main 0 [0, 0]).2[1]? = some 5) ∧
      (read .main 2 []).1 = .ok () ∧
      read .main 3 [] = (.error (.outOfBounds ⟨.main, 3, 0⟩ 2), []) ∧
      (read ⟨3⟩ 0 []).1 = .error (.unknownSection ⟨3⟩) ∧
      read .main (UInt64.size - 1) [0, 0] =
        (.error (.outOfBounds ⟨.main, UInt64.size - 1, 2⟩ 2), [0, 0]) := by
  have hlast : LastInserted replacedMain .main [4, 5] :=
    ⟨[(.main, [1, 2, 3]), (⟨7⟩, [9])], [], rfl, by decide⟩
  obtain ⟨-, -, -, hwhole, -⟩ := reads_of_history replacedMain .main 0 [0, 0]
  obtain ⟨-, -, -, hend, -⟩ := reads_of_history replacedMain .main 2 []
  obtain ⟨-, -, -, hpast, -⟩ := reads_of_history replacedMain .main 3 []
  obtain ⟨hunknown, -⟩ := reads_of_history replacedMain ⟨3⟩ 0 []
  obtain ⟨-, -, -, hcarry, -⟩ := reads_of_history replacedMain .main (UInt64.size - 1) [0, 0]
  obtain ⟨hok, hfilled, -⟩ := hwhole _ hlast
  obtain ⟨hempty, -⟩ := hend _ hlast
  obtain ⟨-, -, houtside, -⟩ := hpast _ hlast
  obtain ⟨-, -, hbeyond, -⟩ := hcarry _ hlast
  refine ⟨⟨hok.2 (by decide), ?_⟩, hempty.2 (by decide), houtside (by decide),
    (hunknown ⟨3⟩).2 ⟨rfl, by decide⟩, hbeyond (by decide)⟩
  exact (hfilled (by decide)).2 1 (by decide)

end Store
end PatternExpr
