import Depot.Proofs.Trimming
import Depot.Settings.VersionRange
import Mathlib.Order.Compare
import Mathlib.Order.PiLex

/-! The order of versions. A version is read as the numbers that its runs of digits stand for
(`Reads`), those that are too large being passed over; what stands between the runs tells nothing, so
white space around a version does not either. Versions are ordered as the sequences of their numbers,
which go on with zeros, by the first place where they differ (`compare_compares`). -/

namespace Depot.Version

/-! ### The numbers of a version -/

/-- The digits of the run are followed by no further digit. -/
structure IsRun (run rest : List Char) : Prop where
  filled : run ≠ []
  digits : ∀ c ∈ run, Text.isDigit c = true
  ended : ∀ c ∈ rest.head?, Text.isDigit c = false

/-- The numbers below 2 to the 64th (`UInt64.size`) that the runs of digits stand for, in their
order. -/
inductive Reads : List Char → List Nat → Prop where
  | nil : Reads [] []
  | between {c : Char} {rest : List Char} {ns : List Nat} (hc : Text.isDigit c = false)
      (h : Reads rest ns) : Reads (c :: rest) ns
  | number {run rest : List Char} {ns : List Nat} (hrun : IsRun run rest)
      (hsmall : Text.decimalValue run < UInt64.size) (h : Reads rest ns) :
      Reads (run ++ rest) (Text.decimalValue run :: ns)
  | tooLarge {run rest : List Char} {ns : List Nat} (hrun : IsRun run rest)
      (hlarge : UInt64.size ≤ Text.decimalValue run) (h : Reads rest ns) : Reads (run ++ rest) ns

/-- The numbers of the characters of a version. -/
def numbersIn (cs : List Char) : List Nat :=
  (cs.splitOnP (!Text.isDigit ·)).filterMap (Text.decimalBelow? UInt64.size)

/-- A character that is no digit parts the runs before it from those after it. -/
theorem numbersIn_append_cons (before after : List Char) {c : Char} (hc : Text.isDigit c = false) :
    numbersIn (before ++ c :: after) = numbersIn before ++ numbersIn after := by
  rw [numbersIn, List.splitOnP_append_cons before after (by simpa using hc), List.filterMap_append,
    numbersIn, numbersIn]

@[simp] theorem numbersIn_nil : numbersIn [] = [] := rfl

theorem numbersIn_cons {c : Char} (hc : Text.isDigit c = false) (rest : List Char) :
    numbersIn (c :: rest) = numbersIn rest :=
  numbersIn_append_cons [] rest hc

theorem numbersIn_of_digits {run : List Char} (hdigits : ∀ c ∈ run, Text.isDigit c = true) :
    numbersIn run = (Text.decimalBelow? UInt64.size run).toList := by
  rw [numbersIn, List.splitOnP_eq_singleton (by simpa using hdigits)]
  cases h : Text.decimalBelow? UInt64.size run <;> simp [h]

theorem IsRun.numbersIn {run rest : List Char} (h : IsRun run rest) :
    numbersIn (run ++ rest) =
      (Text.decimalBelow? UInt64.size run).toList ++ Version.numbersIn rest := by
  cases rest with
  | nil => rw [List.append_nil, numbersIn_of_digits h.digits, numbersIn_nil, List.append_nil]
  | cons c rest =>
    have hc : Text.isDigit c = false := h.ended c rfl
    rw [numbersIn_append_cons run rest hc, numbersIn_of_digits h.digits, numbersIn_cons hc]

theorem IsRun.decimalBelow? {run rest : List Char} (h : IsRun run rest) :
    Text.decimalBelow? UInt64.size run =
      if Text.decimalValue run < UInt64.size then some (Text.decimalValue run) else none := by
  have hdigits : run.all Text.isDigit = true := List.all_eq_true.mpr h.digits
  simp [Text.decimalBelow?, h.filled, hdigits]

/-- A text that begins with a digit begins with a run. -/
theorem isRun_takeWhile {c : Char} (hc : Text.isDigit c = true) (rest : List Char) :
    IsRun ((c :: rest).takeWhile Text.isDigit) ((c :: rest).dropWhile Text.isDigit) where
  filled := by simp [hc]
  digits := fun d hd => List.mem_takeWhile_imp hd
  ended := by
    intro d hd
    have := List.head?_dropWhile_not Text.isDigit (c :: rest)
    rw [Option.mem_def.mp hd] at this
    simpa using this

theorem numbersIn_of_reads {cs : List Char} {ns : List Nat} (h : Reads cs ns) :
    numbersIn cs = ns := by
  induction h with
  | nil => rfl
  | between hc _ ih => rw [numbersIn_cons hc, ih]
  | number hrun hsmall _ ih => rw [hrun.numbersIn, hrun.decimalBelow?, if_pos hsmall, ih]; rfl
  | tooLarge hrun hlarge _ ih =>
    rw [hrun.numbersIn, hrun.decimalBelow?, if_neg (Nat.not_lt.mpr hlarge), ih]
    rfl

theorem IsRun.reads {run rest : List Char} (hrun : IsRun run rest)
    (h : Reads rest (Version.numbersIn rest)) :
    Reads (run ++ rest) (Version.numbersIn (run ++ rest)) := by
  rw [hrun.numbersIn, hrun.decimalBelow?]
  split
  · exact .number hrun ‹_› h
  · exact .tooLarge hrun (Nat.not_lt.mp ‹_›) h

theorem reads_numbersIn : ∀ cs, Reads cs (numbersIn cs)
  | [] => .nil
  | c :: rest => by
    cases hc : Text.isDigit c with
    | false =>
      rw [numbersIn_cons hc]
      exact .between hc (reads_numbersIn rest)
    | true =>
      have hrest : (c :: rest).dropWhile Text.isDigit = rest.dropWhile Text.isDigit :=
        List.dropWhile_cons_of_pos hc
      have hreads := (isRun_takeWhile hc rest).reads
        (hrest ▸ reads_numbersIn (rest.dropWhile Text.isDigit))
      rwa [List.takeWhile_append_dropWhile] at hreads
termination_by cs => cs.length
decreasing_by
  · exact Nat.lt_add_one _
  · exact Nat.lt_add_one_of_le (List.length_dropWhile_le ..)

theorem numbers_eq_iff {version : String} {ns : List Nat} :
    numbers version = ns ↔ Reads version.toList ns :=
  ⟨fun h => h ▸ reads_numbersIn _, numbersIn_of_reads⟩

/-! ### White space around a version -/

theorem numbersIn_append_of_blank {blank : List Char} (h : ∀ c ∈ blank, Text.isSpace c = true)
    (cs : List Char) : numbersIn (blank ++ cs) = numbersIn cs := by
  induction blank with
  | nil => rfl
  | cons c blank ih =>
    have hc := Text.isDigit_of_isSpace (h c List.mem_cons_self)
    rw [List.cons_append, numbersIn_cons hc, ih fun d hd => h d (List.mem_cons_of_mem _ hd)]

theorem numbersIn_of_blank_append {blank : List Char} (h : ∀ c ∈ blank, Text.isSpace c = true)
    (cs : List Char) : numbersIn (cs ++ blank) = numbersIn cs := by
  cases blank with
  | nil => rw [List.append_nil]
  | cons c blank =>
    have hc := Text.isDigit_of_isSpace (h c List.mem_cons_self)
    have hblank := numbersIn_append_of_blank (fun d hd => h d (List.mem_cons_of_mem _ hd)) []
    rw [List.append_nil, numbersIn_nil] at hblank
    rw [numbersIn_append_cons cs blank hc, hblank, List.append_nil]

/-- White space around a version has no numbers. -/
@[simp] theorem numbers_trim (version : String) : numbers (Text.trim version) = numbers version := by
  have hstart (cs : List Char) : numbersIn (cs.dropWhile Text.isSpace) = numbersIn cs := by
    rw [← numbersIn_append_of_blank (fun c hc => List.mem_takeWhile_imp hc) (cs.dropWhile _),
      List.takeWhile_append_dropWhile]
  have hend (cs : List Char) : numbersIn (cs.rdropWhile Text.isSpace) = numbersIn cs := by
    rw [← numbersIn_of_blank_append (fun c hc => List.mem_rtakeWhile_imp hc) (cs.rdropWhile _),
      List.rdropWhile_append_rtakeWhile]
  calc numbers (Text.trim version)
      = numbersIn ((version.toList.dropWhile Text.isSpace).rdropWhile Text.isSpace) := by
        rw [numbers, Text.trim, String.toList_ofList]
        rfl
    _ = numbersIn version.toList := by rw [hend, hstart]
    _ = numbers version := rfl

/-! ### The order -/

/-- The numbers, followed by zeros. -/
def padded (ns : List Nat) : Lex (ℕ → ℕ) :=
  toLex fun i => ns.getD i 0

/-- Where a version stands among all: its numbers in their order, a missing one being zero, and the
first place where two versions differ decides. -/
def rank (version : String) : Lex (ℕ → ℕ) :=
  padded (numbers version)

theorem padded_zero (ns : List Nat) : padded ns 0 = ns.headD 0 := by
  cases ns <;> rfl

theorem padded_succ (ns : List Nat) (i : ℕ) : padded ns (i + 1) = padded ns.tail i := by
  cases ns <;> rfl

theorem padded_lt {ms ns : List Nat} : padded ms < padded ns ↔ ms.headD 0 < ns.headD 0 ∨
    ms.headD 0 = ns.headD 0 ∧ padded ms.tail < padded ns.tail := by
  simp only [← padded_zero]
  constructor
  · rintro ⟨i, hsame, hless⟩
    cases i with
    | zero => exact .inl hless
    | succ i =>
      rw [padded_succ, padded_succ] at hless
      refine .inr ⟨hsame 0 i.succ_pos, i, fun j hj => ?_, hless⟩
      rw [← padded_succ, ← padded_succ]
      exact hsame (j + 1) (Nat.succ_lt_succ hj)
  · rintro (hless | ⟨hhead, i, hsame, hless⟩)
    · exact ⟨0, fun j hj => absurd hj j.not_lt_zero, hless⟩
    · rw [← padded_succ, ← padded_succ] at hless
      refine ⟨i + 1, fun j hj => ?_, hless⟩
      cases j with
      | zero => exact hhead
      | succ j =>
        rw [padded_succ, padded_succ]
        exact hsame j (Nat.lt_of_succ_lt_succ hj)

theorem padded_eq {ms ns : List Nat} (hhead : ms.headD 0 = ns.headD 0)
    (htail : padded ms.tail = padded ns.tail) : padded ms = padded ns := by
  funext i
  cases i with
  | zero => rw [padded_zero, padded_zero, hhead]
  | succ i => rw [padded_succ, padded_succ, htail]

theorem compareNumbers_eq (ms ns : List Nat) : compareNumbers ms ns =
    (Ord.compare (ms.headD 0) (ns.headD 0)).then (compareNumbers ms.tail ns.tail) := by
  cases ms <;> cases ns <;> simp [compareNumbers]

theorem compareNumbers_compares_of_tail {ms ns : List Nat}
    (h : (compareNumbers ms.tail ns.tail).Compares (padded ms.tail) (padded ns.tail)) :
    (compareNumbers ms ns).Compares (padded ms) (padded ns) := by
  rw [compareNumbers_eq]
  rcases Nat.lt_trichotomy (ms.headD 0) (ns.headD 0) with hlt | heq | hgt
  · rw [Nat.compare_eq_lt.mpr hlt]
    exact padded_lt.mpr (.inl hlt)
  · rw [Nat.compare_eq_eq.mpr heq]
    revert h
    cases compareNumbers ms.tail ns.tail with
    | lt => exact fun h => padded_lt.mpr (.inr ⟨heq, h⟩)
    | eq => exact padded_eq heq
    | gt => exact fun h => padded_lt.mpr (.inr ⟨heq.symm, h⟩)
  · rw [Nat.compare_eq_gt.mpr hgt]
    exact padded_lt.mpr (.inl hgt)

theorem compareNumbers_compares (ms ns : List Nat) :
    (compareNumbers ms ns).Compares (padded ms) (padded ns) := by
  induction ms generalizing ns with
  | nil =>
    induction ns with
    | nil => exact rfl
    | cons n ns ih => exact compareNumbers_compares_of_tail ih
  | cons m ms ih => exact compareNumbers_compares_of_tail (ih ns.tail)

theorem compare_compares (v w : String) : (compare v w).Compares (rank v) (rank w) :=
  compareNumbers_compares (numbers v) (numbers w)

@[simp] theorem rank_trim (version : String) : rank (Text.trim version) = rank version := by
  rw [rank, numbers_trim, rank]

end Depot.Version
