import EditPlayer.Casing.Basic
set_option autoImplicit false

/-!
# What the case mappings have in common

The upper-case and the lower-case form of a character are read off tables of the same shape.  What
a table gives is not changed by the same table again, and is white space only where nothing is
changed: both follow from facts about the codes in the table (`Consistent`), which are checked
without listing the characters one by one.

The two mappings undo one another less often.  Of the characters that are their own upper-case form,
all but `ẞ` have a lower-case form that comes back after being put in upper case and in lower case
again (`lowerFirst_toUpper_of_toLower`).
-/

namespace EditPlayer.Unicode

/-! ## Runs of code points as numbers -/

/-- The number with `count` bits set, each `stride` places above the one before it. -/
def spread (stride : Nat) : Nat → Nat
  | 0 => 0
  | count + 1 => spread stride count <<< stride ||| 1

theorem testBit_spread {stride count k : Nat} (h : k < count) :
    (spread stride count).testBit (k * stride) = true := by
  induction count generalizing k with
  | zero => exact absurd h (Nat.not_lt_zero k)
  | succ count ih =>
    rw [spread, Nat.testBit_or, Bool.or_eq_true]
    cases k with
    | zero => exact .inr (by simp)
    | succ k =>
      refine .inl ?_
      rw [Nat.testBit_shiftLeft, Nat.succ_mul, Nat.add_sub_cancel, ih (Nat.lt_of_succ_lt_succ h)]
      simp

namespace CodeRange

/-- The run of one code point. -/
def single (n : Nat) : CodeRange := ⟨n, n, 1⟩

theorem contains_single (n : Nat) : (single n).contains n = true := by
  simp [single, contains]

/-- The number whose bits are the code points of the run. -/
def bits (run : CodeRange) : Nat :=
  spread run.stride ((run.last - run.first) / run.stride + 1) <<< run.first

theorem testBit_bits {run : CodeRange} {n : Nat} (h : run.contains n = true) :
    run.bits.testBit n = true := by
  obtain ⟨hfirst, hlast, hstride⟩ := (run.contains_iff n).mp h
  have hsteps : n - run.first = (n - run.first) / run.stride * run.stride :=
    (Nat.div_mul_cancel (Nat.dvd_of_mod_eq_zero hstride)).symm
  have hcount : (n - run.first) / run.stride < (run.last - run.first) / run.stride + 1 :=
    Nat.lt_succ_of_le (Nat.div_le_div_right (Nat.sub_le_sub_right hlast _))
  rw [bits, Nat.testBit_shiftLeft, hsteps, testBit_spread hcount]
  simpa using hfirst

end CodeRange

/-- The code point lies in one of the runs. -/
def Covers (runs : List CodeRange) (n : Nat) : Prop := ∃ run ∈ runs, run.contains n = true

/-- The number whose bits are the code points of the runs. -/
def bitsOf (runs : List CodeRange) : Nat := runs.foldr (fun run bits => run.bits ||| bits) 0

/-- The runs have no code point in common. -/
def Apart (first second : List CodeRange) : Prop := bitsOf first &&& bitsOf second = 0

instance (first second : List CodeRange) : Decidable (Apart first second) :=
  inferInstanceAs (Decidable (_ = _))

theorem testBit_bitsOf {runs : List CodeRange} {n : Nat} (h : Covers runs n) :
    (bitsOf runs).testBit n = true := by
  obtain ⟨run, hrun, hn⟩ := h
  induction runs with
  | nil => cases hrun
  | cons other rest ih =>
    have hbits : bitsOf (other :: rest) = other.bits ||| bitsOf rest := rfl
    rw [hbits, Nat.testBit_or, Bool.or_eq_true]
    rcases List.mem_cons.mp hrun with rfl | hrest
    · exact .inl (CodeRange.testBit_bits hn)
    · exact .inr (ih hrest)

theorem Apart.not_covers {first second : List CodeRange} (h : Apart first second) {n : Nat}
    (hfirst : Covers first n) : ¬ Covers second n := by
  intro hsecond
  have hboth : (bitsOf first &&& bitsOf second).testBit n = true := by
    rw [Nat.testBit_and, testBit_bitsOf hfirst, testBit_bitsOf hsecond]
    rfl
  rw [h, Nat.zero_testBit] at hboth
  cases hboth

/-! ## The code points of a table -/

namespace CodeShift

/-- The run that the run of the shift is moved to. -/
def imageRun (shift : CodeShift) : CodeRange :=
  ⟨shift.image, shift.image + (shift.run.last - shift.run.first), shift.run.stride⟩

theorem contains_imageRun {shift : CodeShift} {n : Nat} (h : shift.run.contains n = true) :
    shift.imageRun.contains (shift.image + (n - shift.run.first)) = true := by
  obtain ⟨-, hlast, hstride⟩ := (shift.run.contains_iff n).mp h
  refine (shift.imageRun.contains_iff _).mpr ⟨Nat.le_add_right _ _, ?_, ?_⟩
  · exact Nat.add_le_add_left (Nat.sub_le_sub_right hlast _) _
  · rw [imageRun, Nat.add_sub_cancel_left]
    exact hstride

theorem imageOf?_eq_some {shift : CodeShift} {n code : Nat} (h : shift.imageOf? n = some code) :
    shift.run.contains n = true ∧ code = shift.image + (n - shift.run.first) := by
  unfold imageOf? at h
  split at h
  · exact ⟨‹_›, (Option.some.inj h).symm⟩
  · cases h

end CodeShift

section Tables

variable {shifts : List CodeShift} {expansions : List (Nat × List Nat)}

/-- The code points that are mapped to several ones. -/
def expanded (expansions : List (Nat × List Nat)) : List CodeRange :=
  expansions.map fun entry => CodeRange.single entry.1

/-- The code points that have an entry in the tables. -/
def keys (shifts : List CodeShift) (expansions : List (Nat × List Nat)) : List CodeRange :=
  expanded expansions ++ shifts.map (·.run)

/-- The code points that the entries of the tables give. -/
def images (shifts : List CodeShift) (expansions : List (Nat × List Nat)) : List CodeRange :=
  (expansions.flatMap fun entry => entry.2.map CodeRange.single) ++ shifts.map (·.imageRun)

theorem lookup_eq_none {n : Nat} (h : ¬ Covers (expanded expansions) n) :
    expansions.lookup n = none := by
  refine List.lookup_eq_none_iff.mpr fun entry hentry => ?_
  have hkey : n ≠ entry.1 := by
    rintro rfl
    exact h ⟨_, List.mem_map.mpr ⟨entry, hentry, rfl⟩, CodeRange.contains_single _⟩
  simpa using hkey

theorem mem_of_lookup {n : Nat} {codes : List Nat} (h : expansions.lookup n = some codes) :
    (n, codes) ∈ expansions := by
  obtain ⟨before, after, hentries, -⟩ := List.lookup_eq_some_iff.mp h
  rw [hentries]
  simp

theorem mapBy_of_not_covers {c : Char} (h : ¬ Covers (keys shifts expansions) c.toNat) :
    mapBy shifts expansions c = [c] := by
  have hlookup : expansions.lookup c.toNat = none := by
    refine lookup_eq_none ?_
    rintro ⟨run, hrun, hcontains⟩
    exact h ⟨run, List.mem_append_left _ hrun, hcontains⟩
  have hshifted : shifted? shifts c.toNat = none := by
    refine List.findSome?_eq_none_iff.mpr fun shift hshift => ?_
    rw [CodeShift.imageOf?, if_neg]
    intro hcontains
    exact h ⟨shift.run, List.mem_append_right _ (List.mem_map.mpr ⟨shift, hshift, rfl⟩), hcontains⟩
  rw [mapBy, hlookup]
  dsimp only
  rw [hshifted]

theorem covers_images_of_shift {shift : CodeShift} (hshift : shift ∈ shifts) {n : Nat}
    (hn : shift.run.contains n = true) :
    Covers (images shifts expansions) (shift.image + (n - shift.run.first)) :=
  ⟨shift.imageRun, List.mem_append_right _ (List.mem_map.mpr ⟨shift, hshift, rfl⟩),
    CodeShift.contains_imageRun hn⟩

/-- A character stands for itself, or every character that it is mapped to has a code point from the
tables. -/
theorem mapBy_eq_self_or (c : Char) :
    mapBy shifts expansions c = [c] ∨
      ∀ d ∈ mapBy shifts expansions c,
        ∃ code, Covers (images shifts expansions) code ∧ d = Char.ofNat code := by
  unfold mapBy
  split
  · rename_i codes hcodes
    refine .inr fun d hd => ?_
    obtain ⟨code, hcode, rfl⟩ := List.mem_map.mp hd
    refine ⟨code, ⟨.single code, List.mem_append_left _ ?_, CodeRange.contains_single code⟩, rfl⟩
    refine List.mem_flatMap.mpr ⟨(c.toNat, codes), mem_of_lookup hcodes, ?_⟩
    exact List.mem_map.mpr ⟨code, hcode, rfl⟩
  · split
    · rename_i code hcode
      obtain ⟨shift, hshift, himage⟩ := List.exists_of_findSome?_eq_some hcode
      obtain ⟨hcontains, rfl⟩ := CodeShift.imageOf?_eq_some himage
      refine .inr fun d hd => ⟨_, covers_images_of_shift hshift hcontains, ?_⟩
      exact List.mem_singleton.mp hd
    · exact .inl rfl

theorem mapBy_ne_nil (h : ∀ entry ∈ expansions, entry.2 ≠ []) (c : Char) :
    mapBy shifts expansions c ≠ [] := by
  unfold mapBy
  split
  · rename_i codes hcodes
    have hne : codes ≠ [] := h (c.toNat, codes) (mem_of_lookup hcodes)
    simpa using hne
  · split <;> simp

end Tables

/-! ## Case forms -/

/-- The form of a character by a mapping of the first 128 characters and tables for the others; the
upper-case and the lower-case form are two cases of it. -/
def formBy (ascii : Char → Char) (shifts : List CodeShift) (expansions : List (Nat × List Nat))
    (c : Char) : List Char :=
  if c.toNat < 0x80 then [ascii c] else mapBy shifts expansions c

/-- The code points of white space. -/
def spaceRuns : List CodeRange :=
  [⟨0x9, 0xD, 1⟩, ⟨0x20, 0x20, 1⟩, ⟨0x85, 0x85, 1⟩, ⟨0xA0, 0xA0, 1⟩, ⟨0x1680, 0x1680, 1⟩,
   ⟨0x2000, 0x200A, 1⟩, ⟨0x2028, 0x2029, 1⟩, ⟨0x202F, 0x202F, 1⟩, ⟨0x205F, 0x205F, 1⟩,
   ⟨0x3000, 0x3000, 1⟩]

theorem covers_spaceRuns {c : Char} (h : isSpace c = true) : Covers spaceRuns c.toNat := by
  simp only [isSpace, Bool.or_eq_true, Bool.and_eq_true, decide_eq_true_eq, beq_iff_eq] at h
  simp only [Covers, spaceRuns, List.mem_cons, List.not_mem_nil, or_false, exists_eq_or_imp,
    exists_eq_left, CodeRange.contains_iff, Nat.mod_one, and_true]
  grind

/-- A property of the first 128 characters is checked one by one. -/
theorem forall_ascii {P : Char → Prop} (h : ∀ code < 0x80, P (Char.ofNat code)) :
    ∀ c : Char, c.toNat < 0x80 → P c := by
  intro c hc
  have hcode := h c.toNat hc
  rwa [Char.ofNat_toNat] at hcode

/-- Facts about the code points of a mapping that can be checked by going through its tables. -/
structure Consistent (ascii : Char → Char) (shifts : List CodeShift)
    (expansions : List (Nat × List Nat)) : Prop where
  ne_nil : ∀ entry ∈ expansions, entry.2 ≠ []
  valid : ∀ run ∈ images shifts expansions,
    run.last < 0xD800 ∨ 0xDFFF < run.first ∧ run.last < 0x110000
  keys_apart : Apart (images shifts expansions) (keys shifts expansions)
  space_apart : Apart (images shifts expansions) spaceRuns
  ascii_image : ∀ run ∈ images shifts expansions,
    0x80 ≤ run.first ∨ run.first = run.last ∧ ascii (Char.ofNat run.first) = Char.ofNat run.first
  ascii_lt : ∀ c : Char, c.toNat < 0x80 → (ascii c).toNat < 0x80
  ascii_ascii : ∀ c : Char, c.toNat < 0x80 → ascii (ascii c) = ascii c
  ascii_space : ∀ c : Char, c.toNat < 0x80 → isSpace (ascii c) = true → ascii c = c

theorem consistent_upper : Consistent Char.toUpper upperShifts upperExpansions where
  ne_nil := by decide +kernel
  valid := by decide +kernel
  keys_apart := by decide +kernel
  space_apart := by decide +kernel
  ascii_image := by decide +kernel
  ascii_lt := forall_ascii (by decide +kernel)
  ascii_ascii := forall_ascii (by decide +kernel)
  ascii_space := forall_ascii (by decide +kernel)

theorem consistent_lower : Consistent Char.toLower lowerShifts lowerExpansions where
  ne_nil := by decide +kernel
  valid := by decide +kernel
  keys_apart := by decide +kernel
  space_apart := by decide +kernel
  ascii_image := by decide +kernel
  ascii_lt := forall_ascii (by decide +kernel)
  ascii_ascii := forall_ascii (by decide +kernel)
  ascii_space := forall_ascii (by decide +kernel)

namespace Consistent

variable {ascii : Char → Char} {shifts : List CodeShift} {expansions : List (Nat × List Nat)}
  (h : Consistent ascii shifts expansions)

include h

theorem formBy_ne_nil (c : Char) : formBy ascii shifts expansions c ≠ [] := by
  unfold formBy
  split
  · simp
  · exact mapBy_ne_nil h.ne_nil c

theorem toNat_ofNat_image {code : Nat} (hcode : Covers (images shifts expansions) code) :
    (Char.ofNat code).toNat = code := by
  obtain ⟨run, hrun, hcontains⟩ := hcode
  obtain ⟨hfirst, hlast, -⟩ := (run.contains_iff code).mp hcontains
  have hvalid : code.isValidChar := by
    rcases h.valid run hrun with hlow | ⟨hhigh, hend⟩
    · exact .inl (by omega)
    · exact .inr (by omega)
  exact congrArg Char.toNat (dif_pos hvalid)

theorem ascii_ofNat_image {code : Nat} (hcode : Covers (images shifts expansions) code)
    (hlt : code < 0x80) : ascii (Char.ofNat code) = Char.ofNat code := by
  obtain ⟨run, hrun, hcontains⟩ := hcode
  obtain ⟨hfirst, hlast, -⟩ := (run.contains_iff code).mp hcontains
  rcases h.ascii_image run hrun with hhigh | ⟨hsingle, hascii⟩
  · omega
  · obtain rfl : run.first = code := by omega
    exact hascii

/-- A form of a character is its own form. -/
theorem formBy_of_mem {c d : Char} (hd : d ∈ formBy ascii shifts expansions c) :
    formBy ascii shifts expansions d = [d] := by
  by_cases hc : c.toNat < 0x80
  · rw [formBy, if_pos hc, List.mem_singleton] at hd
    rw [hd, formBy, if_pos (h.ascii_lt c hc), h.ascii_ascii c hc]
  · rw [formBy, if_neg hc] at hd
    rcases mapBy_eq_self_or c with hself | hcodes
    · rw [hself, List.mem_singleton] at hd
      rw [hd, formBy, if_neg hc, hself]
    · obtain ⟨code, hcode, rfl⟩ := hcodes d hd
      have htoNat := h.toNat_ofNat_image hcode
      unfold formBy
      split
      · rename_i hlt
        rw [h.ascii_ofNat_image hcode (htoNat ▸ hlt)]
      · exact mapBy_of_not_covers (htoNat.symm ▸ h.keys_apart.not_covers hcode)

/-- White space is the form of no other character. -/
theorem eq_of_isSpace {c d : Char} (hd : d ∈ formBy ascii shifts expansions c)
    (hspace : isSpace d = true) : d = c := by
  by_cases hc : c.toNat < 0x80
  · rw [formBy, if_pos hc, List.mem_singleton] at hd
    rw [hd] at hspace ⊢
    exact h.ascii_space c hc hspace
  · rw [formBy, if_neg hc] at hd
    rcases mapBy_eq_self_or c with hself | hcodes
    · rwa [hself, List.mem_singleton] at hd
    · obtain ⟨code, hcode, rfl⟩ := hcodes d hd
      have hcovers := covers_spaceRuns hspace
      rw [h.toNat_ofNat_image hcode] at hcovers
      exact absurd hcovers (h.space_apart.not_covers hcode)

end Consistent

theorem toUpper_ne_nil (c : Char) : toUpper c ≠ [] := consistent_upper.formBy_ne_nil c

theorem toLower_ne_nil (c : Char) : toLower c ≠ [] := consistent_lower.formBy_ne_nil c

theorem toUpper_of_mem_toUpper {c d : Char} (h : d ∈ toUpper c) : toUpper d = [d] :=
  consistent_upper.formBy_of_mem h

theorem toLower_of_mem_toLower {c d : Char} (h : d ∈ toLower c) : toLower d = [d] :=
  consistent_lower.formBy_of_mem h

theorem eq_of_isSpace_of_mem_toUpper {c d : Char} (h : d ∈ toUpper c) (hd : isSpace d = true) :
    d = c :=
  consistent_upper.eq_of_isSpace h hd

theorem eq_of_isSpace_of_mem_toLower {c d : Char} (h : d ∈ toLower c) (hd : isSpace d = true) :
    d = c :=
  consistent_lower.eq_of_isSpace h hd

/-- The capital sharp s is the upper-case form of no other character. -/
theorem eq_of_sharpS_mem_toUpper {c : Char} (h : 'ẞ' ∈ toUpper c) : c = 'ẞ' := by
  have himages : Apart (images upperShifts upperExpansions) [.single 0x1E9E] := by
    decide +kernel
  unfold toUpper at h
  split at h
  · rename_i hlt
    have hascii := consistent_upper.ascii_lt c hlt
    rw [← List.mem_singleton.mp h] at hascii
    exact absurd hascii (by decide)
  · rcases mapBy_eq_self_or c with hself | hcodes
    · rw [hself, List.mem_singleton] at h
      exact h.symm
    · obtain ⟨code, hcode, heq⟩ := hcodes _ h
      have htoNat := consistent_upper.toNat_ofNat_image hcode
      rw [← heq] at htoNat
      subst htoNat
      exact absurd ⟨_, List.mem_singleton.mpr rfl, rfl⟩ (himages.not_covers hcode)

/-! ## Upper case after lower case -/

/-- The shift that takes care of the code points from `low` on, if it holds the one in question. -/
theorem shifted?_of_find? {shifts : List CodeShift} {shift : CodeShift} {low n : Nat}
    (hfind : shifts.find? (fun other => low.ble other.run.last) = some shift)
    (hlow : low ≤ n) (hn : shift.run.contains n = true) :
    shifted? shifts n = some (shift.image + (n - shift.run.first)) := by
  obtain ⟨-, before, after, rfl, hbefore⟩ := List.find?_eq_some_iff_append.mp hfind
  have hpassed : before.findSome? (·.imageOf? n) = none := by
    refine List.findSome?_eq_none_iff.mpr fun other hother => ?_
    rw [CodeShift.imageOf?, if_neg]
    intro hcontains
    have hlast := ((other.run.contains_iff n).mp hcontains).2.1
    have hpast : ¬ low ≤ other.run.last := by
      rw [← Nat.ble_eq, Bool.not_eq_true]
      simpa only [Bool.not_eq_true'] using hbefore other hother
    omega
  rw [shifted?, List.findSome?_append, hpassed, Option.none_or, List.findSome?_cons,
    CodeShift.imageOf?, if_pos hn]

/-- One of the shifts moves every image of the given shift back. -/
def CodeShift.undoneBy (shift : CodeShift) (shifts : List CodeShift) : Bool :=
  (shifts.find? fun other => shift.image.ble other.run.last).any fun other =>
    other.run.contains shift.image &&
      decide (shift.image + (shift.run.last - shift.run.first) ≤ other.run.last) &&
      (shift.run.first == shift.run.last || shift.run.stride % other.run.stride == 0) &&
      other.image + (shift.image - other.run.first) == shift.run.first

theorem CodeShift.shifted?_image {shift : CodeShift} {shifts : List CodeShift}
    (h : shift.undoneBy shifts = true) {n : Nat} (hn : shift.run.contains n = true) :
    shifted? shifts (shift.image + (n - shift.run.first)) = some n := by
  obtain ⟨other, hfind, hother⟩ := (Option.any_eq_true _ _).mp h
  simp only [Bool.and_eq_true, Bool.or_eq_true, decide_eq_true_eq, beq_iff_eq] at hother
  obtain ⟨⟨⟨himage, hlast⟩, hstride⟩, hback⟩ := hother
  obtain ⟨hstart, -, hoffset⟩ := (other.run.contains_iff _).mp himage
  obtain ⟨hfirst, hle, hstep⟩ := (shift.run.contains_iff n).mp hn
  have hdvd : other.run.stride ∣ n - shift.run.first := by
    rcases hstride with hsingle | hmultiple
    · have hzero : n - shift.run.first = 0 := by omega
      rw [hzero]
      exact Nat.dvd_zero _
    · exact Nat.dvd_trans (Nat.dvd_of_mod_eq_zero hmultiple) (Nat.dvd_of_mod_eq_zero hstep)
  have hcontains : other.run.contains (shift.image + (n - shift.run.first)) = true := by
    refine (other.run.contains_iff _).mpr ⟨by omega, by omega, ?_⟩
    have hsum : shift.image + (n - shift.run.first) - other.run.first =
        (shift.image - other.run.first) + (n - shift.run.first) := by omega
    rw [hsum]
    exact Nat.mod_eq_zero_of_dvd (Nat.dvd_add (Nat.dvd_of_mod_eq_zero hoffset) hdvd)
  rw [shifted?_of_find? hfind (by omega) hcontains]
  congr 1
  omega

open Casing (lowerFirst)

/-- Upper case moves every image of the shift back. -/
structure CodeShift.Undone (shift : CodeShift) : Prop where
  undoneBy : shift.undoneBy upperShifts = true
  apart : Apart [shift.imageRun] (expanded upperExpansions)
  high : 0x80 ≤ shift.image

instance (shift : CodeShift) : Decidable shift.Undone :=
  decidable_of_iff (shift.undoneBy upperShifts = true ∧
    Apart [shift.imageRun] (expanded upperExpansions) ∧ 0x80 ≤ shift.image)
    ⟨fun h => ⟨h.1, h.2.1, h.2.2⟩, fun h => ⟨h.undoneBy, h.apart, h.high⟩⟩

theorem CodeShift.Undone.toUpper_ofNat_image {shift : CodeShift} (h : shift.Undone)
    (hshift : shift ∈ lowerShifts) {n : Nat} (hn : shift.run.contains n = true) :
    toUpper (Char.ofNat (shift.image + (n - shift.run.first))) = [Char.ofNat n] := by
  have htoNat := consistent_lower.toNat_ofNat_image (covers_images_of_shift hshift hn)
  have himage : Covers [shift.imageRun] (shift.image + (n - shift.run.first)) :=
    ⟨_, List.mem_singleton.mpr rfl, CodeShift.contains_imageRun hn⟩
  have hlookup := lookup_eq_none (h.apart.not_covers himage)
  have hhigh := h.high
  rw [toUpper, htoNat, if_neg (by omega), mapBy, htoNat, hlookup]
  dsimp only
  rw [CodeShift.shifted?_image h.undoneBy hn]

/-- Every lower-case form of the character comes back from upper case. -/
def ComesBack (c : Char) : Prop := ∀ l ∈ toLower c, lowerFirst (toUpper l) = [l]

-- The forms are gone through, and not all characters there are.
instance (c : Char) : Decidable (ComesBack c) := List.decidableBAll _ (toLower c)

/-- Most runs of lower-case forms are moved back as a whole.  The few others hold forms of several
upper-case characters, or forms whose upper-case form is longer. -/
theorem lowerShifts_undone : ∀ shift ∈ lowerShifts, shift.Undone ∨
    ∀ n ∈ List.range' shift.run.first (shift.run.last - shift.run.first + 1),
      toUpper (Char.ofNat n) = [Char.ofNat n] → Char.ofNat n ≠ 'ẞ' →
        ComesBack (Char.ofNat n) := by
  decide +kernel

theorem comesBack_ascii : ∀ c : Char, c.toNat < 0x80 → ComesBack c :=
  forall_ascii (by decide +kernel)

/-- A form in lower case comes back from upper case, if the character is its own form in upper case
and not the capital sharp s, whose lower-case form has two capitals. -/
theorem lowerFirst_toUpper_of_toLower {c l : Char} {rest : Text} (hc : toUpper c = [c])
    (hne : c ≠ 'ẞ') (hl : toLower c = l :: rest) : lowerFirst (toUpper l) = [l] := by
  have hmem : l ∈ toLower c := by rw [hl]; exact List.mem_cons_self
  by_cases hlt : c.toNat < 0x80
  · exact comesBack_ascii c hlt l hmem
  · have hmapped := hl
    rw [toLower, if_neg hlt, mapBy] at hmapped
    split at hmapped
    · rename_i codes hcodes
      obtain ⟨-, rfl⟩ := Prod.mk.inj (List.mem_singleton.mp (mem_of_lookup hcodes))
      obtain ⟨rfl, -⟩ := List.cons.inj hmapped
      decide +kernel
    · split at hmapped
      · rename_i code hcode
        obtain ⟨shift, hshift, himage⟩ := List.exists_of_findSome?_eq_some hcode
        obtain ⟨hcontains, rfl⟩ := CodeShift.imageOf?_eq_some himage
        rcases lowerShifts_undone shift hshift with hundone | hpointwise
        · obtain ⟨rfl, rfl⟩ := List.cons.inj hmapped
          rw [hundone.toUpper_ofNat_image hshift hcontains, Char.ofNat_toNat, lowerFirst, hl]
          rfl
        · obtain ⟨hfirst, hlast, -⟩ := (shift.run.contains_iff _).mp hcontains
          have hfound := hpointwise c.toNat (List.mem_range'_1.mpr (by omega))
          rw [Char.ofNat_toNat] at hfound
          exact hfound hc hne l hmem
      · obtain ⟨rfl, rfl⟩ := List.cons.inj hmapped
        rw [hc, lowerFirst, hl]
        rfl

end EditPlayer.Unicode
