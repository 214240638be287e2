import Mathlib.Order.Bounds.Basic
import EditPlayer.Proofs.Occurrences
set_option autoImplicit false

/-!
# Chains of occurrences

Occurrences of a pattern that do not overlap can be put in order, and then form a chain: each begins
where the one before it ends or later.  The search for the `n`-th occurrence takes the first
occurrence that it comes to, in either direction.  This is the best choice: a chain of `n`
occurrences stays a chain when its first occurrence is exchanged for the first one in the text, and
likewise at its end.  So the search finds an occurrence just when there are `n` of them that do not
overlap, and none ends a chain earlier, or begins one later, than the one it finds
(`nthOccurrence?_optimal`).
-/

namespace EditPlayer.Text

variable {pattern text : Text} {columns : List Nat} {column n : Nat}

/-! ## Occurrences in a part of the text -/

theorem OccursAt.drop (h : OccursAt pattern text column) (hn : n ≤ column) :
    OccursAt pattern (text.drop n) (column - n) := by
  obtain ⟨hcolumn, hstarts⟩ := h
  refine ⟨?_, ?_⟩
  · rw [List.length_drop]
    omega
  · rw [List.drop_drop, Nat.add_sub_of_le hn]
    exact hstarts

theorem OccursAt.take (h : OccursAt pattern text column) (hn : column + pattern.length ≤ n) :
    OccursAt pattern (text.take n) column := by
  have hend := h.add_length_le
  refine ⟨?_, ?_⟩
  · rw [List.length_take]
    omega
  · rw [List.drop_take, List.prefix_take_iff]
    exact ⟨h.2, by omega⟩

/-- No occurrence comes before the first one. -/
theorem exists_find?_le (h : OccursAt pattern text column) :
    ∃ first, find? pattern text = some first ∧ first ≤ column := by
  induction text generalizing column with
  | nil =>
    obtain ⟨hcolumn, hstarts⟩ := h
    rw [List.drop_nil] at hstarts
    exact ⟨0, if_pos (List.isPrefixOf_iff_prefix.mpr hstarts), Nat.zero_le _⟩
  | cons c rest ih =>
    rw [find?]
    split
    · exact ⟨0, rfl, Nat.zero_le _⟩
    · rename_i hstarts
      cases column with
      | zero => exact absurd (List.isPrefixOf_iff_prefix.mpr h.2) hstarts
      | succ column =>
        obtain ⟨first, hfirst, hle⟩ := ih ⟨Nat.le_of_succ_le_succ h.1, h.2⟩
        exact ⟨first + 1, by rw [hfirst, Option.map_some], Nat.succ_le_succ hle⟩

/-- No occurrence comes after the last one. -/
theorem exists_le_findLast? (h : OccursAt pattern text column) :
    ∃ last, findLast? pattern text = some last ∧ column ≤ last := by
  induction text generalizing column with
  | nil =>
    obtain ⟨hcolumn, hstarts⟩ := h
    rw [List.drop_nil] at hstarts
    exact ⟨0, if_pos (List.isPrefixOf_iff_prefix.mpr hstarts), hcolumn⟩
  | cons c rest ih =>
    rw [findLast?]
    cases column with
    | zero =>
      have hstarts : pattern.isPrefixOf (c :: rest) = true := List.isPrefixOf_iff_prefix.mpr h.2
      cases findLast? pattern rest with
      | some last => exact ⟨last + 1, rfl, Nat.zero_le _⟩
      | none => exact ⟨0, if_pos hstarts, Nat.le_refl _⟩
    | succ column =>
      obtain ⟨last, hlast, hle⟩ := ih ⟨Nat.le_of_succ_le_succ h.1, h.2⟩
      exact ⟨last + 1, by rw [hlast], Nat.succ_le_succ hle⟩

/-! ## Chains -/

/-- Occurrences of a pattern from left to right, each beginning where the one before it ends or
later. -/
structure Chain (pattern text : Text) (columns : List Nat) : Prop where
  occursAt : ∀ column ∈ columns, OccursAt pattern text column
  apart : columns.Pairwise fun first second => first + pattern.length ≤ second

theorem Chain.singleton (h : OccursAt pattern text column) : Chain pattern text [column] where
  occursAt _ hmem := List.mem_singleton.mp hmem ▸ h
  apart := List.pairwise_singleton _ _

theorem Chain.cons (h : OccursAt pattern text column) (hchain : Chain pattern text columns)
    (hle : ∀ later ∈ columns, column + pattern.length ≤ later) :
    Chain pattern text (column :: columns) where
  occursAt := List.forall_mem_cons.mpr ⟨h, hchain.occursAt⟩
  apart := List.pairwise_cons.mpr ⟨hle, hchain.apart⟩

theorem Chain.concat (hchain : Chain pattern text columns) (h : OccursAt pattern text column)
    (hle : ∀ earlier ∈ columns, earlier + pattern.length ≤ column) :
    Chain pattern text (columns ++ [column]) where
  occursAt := by
    intro other hmem
    rcases List.mem_append.mp hmem with hmem | hmem
    · exact hchain.occursAt other hmem
    · exact List.mem_singleton.mp hmem ▸ h
  apart := by
    refine List.pairwise_append.mpr ⟨hchain.apart, List.pairwise_singleton _ _, ?_⟩
    intro earlier hmem last hlast
    rw [List.mem_singleton.mp hlast]
    exact hle earlier hmem

/-- A chain behind the first `n` characters is a chain of what is left without them. -/
theorem Chain.drop (h : Chain pattern text columns) (hn : ∀ column ∈ columns, n ≤ column) :
    Chain pattern (text.drop n) (columns.map (· - n)) where
  occursAt := by
    intro shifted hmem
    obtain ⟨column, hcolumn, rfl⟩ := List.mem_map.mp hmem
    exact (h.occursAt column hcolumn).drop (hn column hcolumn)
  apart := by
    refine List.pairwise_map.mpr (h.apart.imp_of_mem ?_)
    intro first second hfirst hsecond hle
    have hn := hn first hfirst
    omega

theorem Chain.of_drop (hn : n ≤ text.length) (h : Chain pattern (text.drop n) columns) :
    Chain pattern text (columns.map (· + n)) where
  occursAt := by
    intro shifted hmem
    obtain ⟨column, hcolumn, rfl⟩ := List.mem_map.mp hmem
    exact (h.occursAt column hcolumn).of_drop hn
  apart := by
    refine List.pairwise_map.mpr (h.apart.imp ?_)
    intro first second hle
    omega

/-- A chain that ends within the first `n` characters is a chain of them. -/
theorem Chain.take (h : Chain pattern text columns)
    (hn : ∀ column ∈ columns, column + pattern.length ≤ n) :
    Chain pattern (text.take n) columns where
  occursAt column hcolumn := (h.occursAt column hcolumn).take (hn column hcolumn)
  apart := h.apart

theorem Chain.of_take (h : Chain pattern (text.take n) columns) : Chain pattern text columns where
  occursAt column hcolumn := (h.occursAt column hcolumn).of_take
  apart := h.apart

/-- A chain of `n` occurrences ends with the one at this column. -/
def EndsChain (pattern text : Text) (n column : Nat) : Prop :=
  ∃ columns, Chain pattern text columns ∧ columns.length = n ∧ columns.getLast? = some column

/-- A chain of `n` occurrences begins with the one at this column. -/
def BeginsChain (pattern text : Text) (n column : Nat) : Prop :=
  ∃ columns, Chain pattern text columns ∧ columns.length = n ∧ columns.head? = some column

/-! ## Towards the end -/

theorem endsChain_of_findAfter? {skipped : Nat}
    (h : findAfter? pattern skipped text = some column) :
    EndsChain pattern text (skipped + 1) column := by
  induction skipped generalizing text column with
  | zero => exact ⟨[column], .singleton (occursAt_of_find? h), rfl, rfl⟩
  | succ skipped ih =>
    rw [findAfter?] at h
    split at h
    · cases h
    · rename_i first hfirst
      obtain ⟨last, hlast, rfl⟩ := Option.map_eq_some_iff.mp h
      obtain ⟨columns, hchain, hlength, hends⟩ := ih hlast
      have hoccurs := occursAt_of_find? hfirst
      refine ⟨first :: columns.map (· + (first + pattern.length)), ?_, ?_, ?_⟩
      · refine .cons hoccurs (hchain.of_drop hoccurs.add_length_le) ?_
        intro later hmem
        obtain ⟨column, -, rfl⟩ := List.mem_map.mp hmem
        exact Nat.le_add_left _ _
      · rw [List.length_cons, List.length_map, hlength]
      · rw [List.getLast?_cons, List.getLast?_map, hends]
        rfl

/-- No chain ends earlier than the search: the first occurrence in the text takes the place of the
first one in the chain, and the rest of the chain stands behind it. -/
theorem exists_findAfter?_le {skipped last : Nat}
    (h : EndsChain pattern text (skipped + 1) last) :
    ∃ column, findAfter? pattern skipped text = some column ∧ column ≤ last := by
  obtain ⟨columns, hchain, hlength, hends⟩ := h
  induction skipped generalizing text columns last with
  | zero => exact exists_find?_le (hchain.occursAt last (List.mem_of_getLast? hends))
  | succ skipped ih =>
    obtain ⟨a, b, rest, rfl⟩ : ∃ a b rest, columns = a :: b :: rest := by
      match columns, hlength with
      | a :: b :: rest, _ => exact ⟨a, b, rest, rfl⟩
    obtain ⟨first, hfirst, hle⟩ := exists_find?_le (hchain.occursAt a List.mem_cons_self)
    obtain ⟨hbehind, hrest⟩ := List.pairwise_cons.mp hchain.apart
    have hnext : ∀ column ∈ b :: rest, first + pattern.length ≤ column := by
      intro column hmem
      have hcolumn := hbehind column hmem
      omega
    have htail : Chain pattern text (b :: rest) :=
      ⟨fun column hmem => hchain.occursAt column (List.mem_cons_of_mem a hmem), hrest⟩
    rw [List.getLast?_cons_cons] at hends
    have hshifted : ((b :: rest).map (· - (first + pattern.length))).getLast? =
        some (last - (first + pattern.length)) := by
      rw [List.getLast?_map, hends]
      rfl
    obtain ⟨column, hcolumn, hcolumnLe⟩ := ih _ (htail.drop hnext)
      (by simpa using hlength) hshifted
    refine ⟨column + (first + pattern.length), ?_, ?_⟩
    · rw [findAfter?, hfirst]
      simp only [hcolumn, Option.map_some]
    · have hlast := hnext last (List.mem_of_getLast? hends)
      omega

/-! ## Towards the start -/

theorem beginsChain_of_findBefore? {skipped : Nat}
    (h : findBefore? pattern skipped text = some column) :
    BeginsChain pattern text (skipped + 1) column := by
  induction skipped generalizing text column with
  | zero => exact ⟨[column], .singleton (occursAt_of_findLast? h), rfl, rfl⟩
  | succ skipped ih =>
    rw [findBefore?] at h
    split at h
    · cases h
    · rename_i last hlast
      obtain ⟨columns, hchain, hlength, hbegins⟩ := ih h
      refine ⟨columns ++ [last], ?_, ?_, ?_⟩
      · refine hchain.of_take.concat (occursAt_of_findLast? hlast) ?_
        intro earlier hmem
        have hend := (hchain.occursAt earlier hmem).add_length_le
        rw [List.length_take] at hend
        omega
      · rw [List.length_append, hlength, List.length_singleton]
      · rw [List.head?_append, hbegins, Option.some_or]

/-- No chain begins later than the search: the last occurrence in the text takes the place of the
last one in the chain, and the rest of the chain stands before it. -/
theorem exists_le_findBefore? {skipped first : Nat}
    (h : BeginsChain pattern text (skipped + 1) first) :
    ∃ column, findBefore? pattern skipped text = some column ∧ first ≤ column := by
  obtain ⟨columns, hchain, hlength, hbegins⟩ := h
  induction skipped generalizing text columns with
  | zero => exact exists_le_findLast? (hchain.occursAt first (List.mem_of_head? hbegins))
  | succ skipped ih =>
    obtain ⟨earlier, z, rfl⟩ : ∃ earlier z, columns = earlier ++ [z] := by
      rcases List.eq_nil_or_concat columns with rfl | ⟨earlier, z, hconcat⟩
      · cases hlength
      · exact ⟨earlier, z, hconcat.trans List.concat_eq_append⟩
    obtain ⟨last, hlast, hle⟩ :=
      exists_le_findLast? (hchain.occursAt z (List.mem_append_right _ List.mem_cons_self))
    obtain ⟨hapart, -, hbefore⟩ := List.pairwise_append.mp hchain.apart
    have hinit : Chain pattern text earlier :=
      ⟨fun column hmem => hchain.occursAt column (List.mem_append_left _ hmem), hapart⟩
    have hends : ∀ column ∈ earlier, column + pattern.length ≤ last := by
      intro column hmem
      have hcolumn := hbefore column hmem z List.mem_cons_self
      omega
    have hcount : earlier.length = skipped + 1 := by simpa using hlength
    have hhead : earlier.head? = some first := by
      cases earlier with
      | nil => cases hcount
      | cons a others => exact hbegins
    obtain ⟨column, hcolumn, hfirst⟩ := ih _ (hinit.take hends) hcount hhead
    refine ⟨column, ?_, hfirst⟩
    rw [findBefore?, hlast]
    exact hcolumn

/-! ## Occurrences in any order -/

/-- The text has `n` occurrences of a pattern of which no two overlap. -/
def HasApart (pattern text : Text) (n : Nat) : Prop :=
  ∃ columns : List Nat, columns.length = n ∧
    (∀ column ∈ columns, OccursAt pattern text column) ∧
    columns.Pairwise fun a b => a + pattern.length ≤ b ∨ b + pattern.length ≤ a

theorem Chain.hasApart (h : Chain pattern text columns) :
    HasApart pattern text columns.length :=
  ⟨columns, rfl, h.occursAt, h.apart.imp Or.inl⟩

theorem EndsChain.hasApart (h : EndsChain pattern text n column) : HasApart pattern text n := by
  obtain ⟨columns, hchain, rfl, -⟩ := h
  exact hchain.hasApart

theorem BeginsChain.hasApart (h : BeginsChain pattern text n column) :
    HasApart pattern text n := by
  obtain ⟨columns, hchain, rfl, -⟩ := h
  exact hchain.hasApart

/-- Occurrences that do not overlap form a chain when they are put in order. -/
theorem HasApart.exists_chain (hpattern : pattern ≠ []) (h : HasApart pattern text n) :
    ∃ columns, Chain pattern text columns ∧ columns.length = n := by
  obtain ⟨columns, hlength, hoccurs, hapart⟩ := h
  have hpos : 0 < pattern.length := List.length_pos_iff.mpr hpattern
  have htrans : ∀ a b c : Nat,
      decide (a ≤ b) = true → decide (b ≤ c) = true → decide (a ≤ c) = true := by
    intro a b c hab hbc
    exact decide_eq_true (Nat.le_trans (of_decide_eq_true hab) (of_decide_eq_true hbc))
  have htotal : ∀ a b : Nat, (decide (a ≤ b) || decide (b ≤ a)) = true := by
    intro a b
    rw [Bool.or_eq_true, decide_eq_true_iff, decide_eq_true_iff]
    exact Nat.le_total a b
  have hsorted := List.pairwise_mergeSort htrans htotal columns
  have hperm := List.mergeSort_perm columns fun a b => decide (a ≤ b)
  have hspread := hperm.symm.pairwise hapart fun hab => Or.symm hab
  refine ⟨_, ⟨fun column hmem => hoccurs column (hperm.mem_iff.mp hmem), ?_⟩, ?_⟩
  · refine (hsorted.and hspread).imp ?_
    rintro a b ⟨hle, hab | hba⟩
    · exact hab
    · -- The pattern is not empty, so the earlier one cannot end behind the later one.
      have hle := of_decide_eq_true hle
      omega
  · rw [hperm.length_eq, hlength]

/-- The chain has a last and a first occurrence. -/
theorem HasApart.exists_ends (hpattern : pattern ≠ []) (h : HasApart pattern text (n + 1)) :
    (∃ last, EndsChain pattern text (n + 1) last) ∧
      ∃ first, BeginsChain pattern text (n + 1) first := by
  obtain ⟨columns, hchain, hlength⟩ := h.exists_chain hpattern
  have hne : columns ≠ [] := List.ne_nil_of_length_eq_add_one hlength
  exact ⟨⟨_, columns, hchain, hlength, List.getLast?_eq_some_getLast hne⟩,
    ⟨_, columns, hchain, hlength, List.head?_eq_some_head hne⟩⟩

theorem isSome_findAfter?_iff (hpattern : pattern ≠ []) (skipped : Nat) :
    (findAfter? pattern skipped text).isSome = true ↔ HasApart pattern text (skipped + 1) := by
  constructor
  · intro h
    obtain ⟨column, hcolumn⟩ := Option.isSome_iff_exists.mp h
    exact (endsChain_of_findAfter? hcolumn).hasApart
  · intro h
    obtain ⟨last, hlast⟩ := (h.exists_ends hpattern).1
    obtain ⟨column, hcolumn, -⟩ := exists_findAfter?_le hlast
    rw [hcolumn, Option.isSome_some]

theorem isSome_findBefore?_iff (hpattern : pattern ≠ []) (skipped : Nat) :
    (findBefore? pattern skipped text).isSome = true ↔ HasApart pattern text (skipped + 1) := by
  constructor
  · intro h
    obtain ⟨column, hcolumn⟩ := Option.isSome_iff_exists.mp h
    exact (beginsChain_of_findBefore? hcolumn).hasApart
  · intro h
    obtain ⟨first, hfirst⟩ := (h.exists_ends hpattern).2
    obtain ⟨column, hcolumn, -⟩ := exists_le_findBefore? hfirst
    rw [hcolumn, Option.isSome_some]

/-- In either direction a search finds an `n`-th occurrence just when there are `n` occurrences that
do not overlap. -/
theorem isSome_nthOccurrence?_iff (hpattern : pattern ≠ []) (n : Nat) (course : Course) :
    (nthOccurrence? pattern text n course).isSome = true ↔ HasApart pattern text (max n 1) := by
  have hcount : n - 1 + 1 = max n 1 := by omega
  rw [← hcount]
  cases course with
  | forward => exact isSome_findAfter?_iff hpattern (n - 1)
  | backward => exact isSome_findBefore?_iff hpattern (n - 1)

/-- Towards the end a search finds the earliest end of a chain. -/
theorem findAfter?_eq_some_iff {skipped : Nat} :
    findAfter? pattern skipped text = some column ↔
      IsLeast {last | EndsChain pattern text (skipped + 1) last} column := by
  constructor
  · intro h
    refine ⟨endsChain_of_findAfter? h, fun last hlast => ?_⟩
    obtain ⟨found, hfound, hle⟩ := exists_findAfter?_le hlast
    rw [h] at hfound
    cases hfound
    exact hle
  · rintro ⟨hends, hleast⟩
    obtain ⟨found, hfound, hle⟩ := exists_findAfter?_le hends
    rw [hfound, Nat.le_antisymm hle (hleast (endsChain_of_findAfter? hfound))]

/-- Towards the start a search finds the latest start of a chain. -/
theorem findBefore?_eq_some_iff {skipped : Nat} :
    findBefore? pattern skipped text = some column ↔
      IsGreatest {first | BeginsChain pattern text (skipped + 1) first} column := by
  constructor
  · intro h
    refine ⟨beginsChain_of_findBefore? h, fun first hfirst => ?_⟩
    obtain ⟨found, hfound, hle⟩ := exists_le_findBefore? hfirst
    rw [h] at hfound
    cases hfound
    exact hle
  · rintro ⟨hbegins, hgreatest⟩
    obtain ⟨found, hfound, hle⟩ := exists_le_findBefore? hbegins
    rw [hfound, Nat.le_antisymm (hgreatest (beginsChain_of_findBefore? hfound)) hle]

/-- The `n`-th occurrence is found, in either direction, just when the text has `n` occurrences of
the pattern that do not overlap.  Towards the end it is the earliest one that ends a chain of `n`
occurrences, and towards the start the latest one that begins such a chain. -/
theorem nthOccurrence?_optimal (pattern text : Text) (hpattern : pattern ≠ []) (n : Nat)
    (hn : 1 ≤ n) :
    ((nthOccurrence? pattern text n .forward).isSome = true ↔ HasApart pattern text n) ∧
    ((nthOccurrence? pattern text n .backward).isSome = true ↔ HasApart pattern text n) ∧
    (∀ column, nthOccurrence? pattern text n .forward = some column ↔
      IsLeast {last | EndsChain pattern text n last} column) ∧
    ∀ column, nthOccurrence? pattern text n .backward = some column ↔
      IsGreatest {first | BeginsChain pattern text n first} column := by
  obtain ⟨skipped, rfl⟩ := Nat.exists_eq_add_of_le' hn
  exact ⟨isSome_findAfter?_iff hpattern skipped, isSome_findBefore?_iff hpattern skipped,
    fun _ => findAfter?_eq_some_iff, fun _ => findBefore?_eq_some_iff⟩

/-- Of the four places where `aa` stands in `aaaaa`, the search for the second one takes the third
towards the end and the second towards the start. -/
theorem nthOccurrence?_optimal_overlapping :
    HasApart ['a', 'a'] ['a', 'a', 'a', 'a', 'a'] 2 ∧
    IsLeast {last | EndsChain ['a', 'a'] ['a', 'a', 'a', 'a', 'a'] 2 last} 2 ∧
    IsGreatest {first | BeginsChain ['a', 'a'] ['a', 'a', 'a', 'a', 'a'] 2 first} 1 := by
  obtain ⟨hforward, -, hleast, hgreatest⟩ := nthOccurrence?_optimal ['a', 'a']
    ['a', 'a', 'a', 'a', 'a'] (by decide) 2 (by decide)
  exact ⟨hforward.mp rfl, (hleast 2).mp rfl, (hgreatest 1).mp rfl⟩

end EditPlayer.Text
