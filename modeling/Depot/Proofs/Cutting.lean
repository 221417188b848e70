import Depot.Text.Pieces
import Mathlib.Data.List.Infix

/-! Texts cut at a mark, and at a single character. A text is cut where the mark comes first
(`suffix_of_cutAt?`), and one in which it does not occur is left in one piece. Taken apart at every
place of a character, a text has pieces without it, and what is put between two texts keeps the pieces
of both apart (`pieces_append`). -/

namespace Depot.Text

/-! ### Marks -/

variable {mark cs before after : List Char}

theorem cutAt?_eq_none_iff (hmark : mark ≠ []) : cutAt? mark cs = none ↔ ¬mark <:+: cs := by
  induction cs with
  | nil =>
    rw [cutAt?, if_neg (by simpa using hmark), List.infix_nil]
    exact iff_of_true rfl hmark
  | cons c cs ih =>
    rw [cutAt?, List.infix_cons_iff, not_or, ← ih, ← List.isPrefixOf_iff_prefix]
    split
    · rename_i hstart
      exact iff_of_false (Option.some_ne_none _) fun h => h.1 hstart
    · rename_i hstart
      rw [Option.map_eq_none_iff, and_iff_right hstart]

/-- No place of the mark is before the one at which a text is cut. -/
theorem suffix_of_cutAt? {front back : List Char} (h : cutAt? mark cs = some (before, after))
    (hcs : cs = front ++ mark ++ back) : back <:+ after := by
  induction cs generalizing front before with
  | nil =>
    obtain ⟨hfront, rfl⟩ := List.append_eq_nil_iff.mp hcs.symm
    exact List.nil_suffix
  | cons c cs ih =>
    rw [cutAt?] at h
    split at h
    · obtain ⟨-, rfl⟩ := Prod.mk.inj (Option.some.inj h)
      have hback : back = (c :: cs).drop (front.length + mark.length) := by
        rw [hcs, ← List.length_append, List.drop_left]
      rw [hback, Nat.add_comm, ← List.drop_drop]
      exact List.drop_suffix _ _
    · rename_i hstart
      obtain ⟨⟨before', after'⟩, hcut, hfound⟩ := Option.map_eq_some_iff.mp h
      obtain ⟨-, rfl⟩ := Prod.mk.inj hfound
      cases front with
      | nil => exact absurd (List.isPrefixOf_iff_prefix.mpr ⟨back, hcs.symm⟩) hstart
      | cons d front => exact ih hcut (List.cons.inj hcs).2

theorem not_infix_of_cutAt? (hmark : mark ≠ []) (h : cutAt? mark cs = some (before, after)) :
    ¬mark <:+: before := by
  rintro ⟨front, back, hbefore⟩
  have hcs : cs = front ++ mark ++ (back ++ mark ++ after) := by
    rw [eq_append_of_cutAt? h, ← hbefore]
    simp
  have hlength := (suffix_of_cutAt? h hcs).length_le
  have hpos := List.length_pos_iff.mpr hmark
  simp only [List.length_append] at hlength
  omega

/-- Two different characters in a row are found where they come first, for the first one cannot be the
second one of an earlier place. -/
theorem cutAt?_append_pair {c d : Char} (hne : c ≠ d) (h : ¬[c, d] <:+: before)
    (after : List Char) : cutAt? [c, d] (before ++ c :: d :: after) = some (before, after) := by
  induction before with
  | nil => simp [cutAt?]
  | cons e before ih =>
    have hstart : ¬[c, d].isPrefixOf (e :: (before ++ c :: d :: after)) = true := by
      cases before with
      | nil => simpa using fun _ heq => hne heq.symm
      | cons f before =>
        rw [List.isPrefixOf_iff_prefix]
        rintro ⟨rest, hrest⟩
        obtain ⟨rfl, htail⟩ := List.cons.inj hrest
        obtain ⟨rfl, -⟩ := List.cons.inj htail
        exact h ⟨[], before, rfl⟩
    rw [List.cons_append, cutAt?, if_neg hstart, ih (mt List.infix_cons h)]
    rfl

/-- A mark is found where its first character comes first. -/
theorem cutAt?_append_mark {c : Char} (h : c ∉ before) (mark after : List Char) :
    cutAt? (c :: mark) (before ++ (c :: mark) ++ after) = some (before, after) := by
  induction before with
  | nil => simp [cutAt?]
  | cons d before ih =>
    obtain ⟨hd, hbefore⟩ := List.ne_and_not_mem_of_not_mem_cons h
    rw [List.cons_append, List.cons_append, cutAt?, if_neg (by simp [hd]), ih hbefore]
    rfl

/-! ### Single characters -/

theorem cutAt?_append_cons {c : Char} {before : List Char} (h : c ∉ before) (after : List Char) :
    cutAt? [c] (before ++ c :: after) = some (before, after) := by
  rw [← cutAt?_append_mark h [] after, List.append_assoc, List.singleton_append]

theorem cutAt?_eq_none {c : Char} {cs : List Char} (h : c ∉ cs) : cutAt? [c] cs = none := by
  rwa [cutAt?_eq_none_iff (List.cons_ne_nil c []), List.singleton_infix_iff]

/-- A text without the character is what precedes the character when it goes on with it, or ends. -/
theorem beforeFirst_append {c : Char} {before rest : List Char} (h : c ∉ before)
    (hrest : ∀ d ∈ rest.head?, d = c) : beforeFirst c (before ++ rest) = before := by
  have hkept : ∀ d ∈ before, (d != c) = true := fun d hd =>
    bne_iff_ne.mpr fun heq => h (heq ▸ hd)
  rw [beforeFirst, List.takeWhile_append_of_pos hkept]
  cases rest with
  | nil => exact List.append_nil before
  | cons d rest =>
    obtain rfl := hrest d rfl
    rw [List.takeWhile_cons_of_neg (by simp), List.append_nil]

/-- A text without the character is what follows the character when it comes after it, or begins. -/
theorem afterLast_append {c : Char} {rest after : List Char} (h : c ∉ after)
    (hrest : ∀ d ∈ rest.getLast?, d = c) : afterLast c (rest ++ after) = after := by
  have hbefore : beforeFirst c (after.reverse ++ rest.reverse) = after.reverse :=
    beforeFirst_append (mt List.mem_reverse.mp h) (by rwa [List.head?_reverse])
  rw [beforeFirst] at hbefore
  rw [afterLast, List.reverse_append, hbefore, List.reverse_reverse]

/-- A text is cut at the first place of a single character. -/
theorem map_fst_cutAt?_singleton (c : Char) (cs : List Char) :
    (cutAt? [c] cs).map Prod.fst = if c ∈ cs then some (beforeFirst c cs) else none := by
  split
  · rename_i hmem
    obtain ⟨before, after, rfl, hbefore⟩ := List.eq_append_cons_of_mem hmem
    rw [cutAt?_append_cons hbefore, Option.map_some, beforeFirst_append hbefore (by simp)]
  · rename_i hnone
    rw [cutAt?_eq_none hnone, Option.map_none]

/-! ### Pieces -/

variable {separator : Char} {s t : String}

/-- The parts are made of the same characters, the separators left out. -/
theorem mem_of_mem_splitOn {cs part : List Char} {c : Char} (h : part ∈ cs.splitOn separator)
    (hc : c ∈ part) : c ∈ cs ∧ c ≠ separator := by
  induction cs generalizing part with
  | nil =>
    obtain rfl := List.mem_singleton.mp h
    cases hc
  | cons first cs ih =>
    rw [List.splitOn_cons_eq_if_modifyHead] at h
    split_ifs at h with hfirst
    · rcases List.mem_cons.mp h with rfl | h
      · cases hc
      · exact (ih h hc).imp_left (List.mem_cons_of_mem _)
    · cases hparts : cs.splitOn separator with
      | nil => exact absurd hparts (List.splitOn_ne_nil separator cs)
      | cons next rest =>
        rw [hparts] at h ih
        rcases List.mem_cons.mp h with rfl | h
        · rcases List.mem_cons.mp hc with rfl | hc
          · exact ⟨List.mem_cons_self, by simpa using hfirst⟩
          · exact (ih List.mem_cons_self hc).imp_left (List.mem_cons_of_mem _)
        · exact (ih (List.mem_cons_of_mem _ h) hc).imp_left (List.mem_cons_of_mem _)

theorem not_mem_of_mem_pieces {piece : String} (h : piece ∈ pieces separator s) :
    separator ∉ piece.toList := by
  obtain ⟨part, hpart, rfl⟩ := List.mem_map.mp h
  rw [String.toList_ofList]
  exact fun hmem => (mem_of_mem_splitOn hpart hmem).2 rfl

theorem pieces_eq_singleton (h : separator ∉ s.toList) : pieces separator s = [s] := by
  rw [pieces, List.splitOn_eq_singleton h, List.map_singleton, String.ofList_toList]

/-- A separator between two texts keeps their pieces apart. -/
theorem pieces_append {mark : String} (hmark : mark.toList = [separator]) (s t : String) :
    pieces separator (s ++ mark ++ t) = pieces separator s ++ pieces separator t := by
  rw [pieces, String.toList_append, String.toList_append, hmark, List.append_assoc,
    List.singleton_append, List.splitOn_append_cons_self, List.map_append]
  rfl

/-- A text can be put together again from its pieces. -/
theorem pieces_injective : Function.Injective (pieces separator) := by
  intro s t h
  have hparts : s.toList.splitOn separator = t.toList.splitOn separator :=
    List.map_injective_iff.mpr (fun _ _ => String.ofList_inj.mp) h
  have hs : [separator].intercalate (s.toList.splitOn separator) = s.toList :=
    List.intercalate_splitOn separator
  rw [hparts, List.intercalate_splitOn] at hs
  exact (String.toList_inj.mp hs).symm

end Depot.Text
