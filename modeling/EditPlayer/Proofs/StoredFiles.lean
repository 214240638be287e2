import EditPlayer.Files.Tree
import Mathlib.Tactic.SplitIfs
set_option autoImplicit false

/-!
# Stored texts are found again

Two things have to hold for a text to survive in a file.  Its bytes have to be read as its
characters: `Utf8.scan_encode`.  And a file that was written has to hold what was written: the law
`FileStore.ReadsBack` says so for any monad in which files are kept, and the tree of files obeys it
(`FileTree.readsBack`).
-/

namespace EditPlayer

/-! ## Bytes of a text -/

namespace Utf8

/-- The range of the characters: all below a limit except the halves of surrogate pairs. -/
theorem toNat_range (c : Char) :
    c.toNat < 0xD800 ∨ 0xDFFF < c.toNat ∧ c.toNat < 0x110000 :=
  c.valid

theorem toNat_ofNat_of_lt {n : Nat} (h : n < 256) : (UInt8.ofNat n).toNat = n := by
  rw [UInt8.toNat_ofNat', Nat.mod_eq_of_lt h]

theorem isContinuation_of_toNat {byte : UInt8} (hlow : 0x80 ≤ byte.toNat)
    (hhigh : byte.toNat < 0xC0) : isContinuation byte = true := by
  simp [isContinuation, UInt8.le_iff_toNat_le, UInt8.lt_iff_toNat_lt, hlow, hhigh]

/-- A byte that begins a longer encoding begins none of two bytes. -/
theorem two?_of_le {a : UInt8} (h : 0xE0 ≤ a.toNat) (b : UInt8) : two? a b = none := by
  have hlead : ¬ a < 0xE0 := UInt8.not_lt.mpr (UInt8.le_iff_toNat_le.mpr h)
  simp [two?, hlead]

theorem three?_of_le {a : UInt8} (h : 0xF0 ≤ a.toNat) (b c : UInt8) : three? a b c = none := by
  have hlead : ¬ a < 0xF0 := UInt8.not_lt.mpr (UInt8.le_iff_toNat_le.mpr h)
  simp [three?, hlead]

section Lengths

variable {char : Char} {a b c d : UInt8}

theorem two?_eq (ha : a.toNat = char.toNat / 64 + 0xC0) (hb : b.toNat = char.toNat % 64 + 0x80)
    (hlow : 0x80 ≤ char.toNat) (hhigh : char.toNat < 0x800) : two? a b = some char := by
  have hcode : (a.toNat - 0xC0) * 0x40 + payload b = char.toNat := by
    unfold payload
    omega
  have hfirst : 0xC2 ≤ a := UInt8.le_iff_toNat_le.mpr (show 0xC2 ≤ a.toNat by omega)
  have hlast : a < 0xE0 := UInt8.lt_iff_toNat_lt.mpr (show a.toNat < 0xE0 by omega)
  have hsecond : isContinuation b = true := isContinuation_of_toNat (by omega) (by omega)
  simp [two?, hcode, Char.ofNat_toNat, hfirst, hlast, hsecond]

theorem three?_eq (ha : a.toNat = char.toNat / 4096 + 0xE0)
    (hb : b.toNat = char.toNat / 64 % 64 + 0x80) (hc : c.toNat = char.toNat % 64 + 0x80)
    (hlow : 0x800 ≤ char.toNat) (hhigh : char.toNat < 0x10000) : three? a b c = some char := by
  have hcode : ((a.toNat - 0xE0) * 0x40 + payload b) * 0x40 + payload c = char.toNat := by
    unfold payload
    omega
  have hfirst : 0xE0 ≤ a := UInt8.le_iff_toNat_le.mpr (show 0xE0 ≤ a.toNat by omega)
  have hlast : a < 0xF0 := UInt8.lt_iff_toNat_lt.mpr (show a.toNat < 0xF0 by omega)
  have hsecond : isContinuation b = true := isContinuation_of_toNat (by omega) (by omega)
  have hthird : isContinuation c = true := isContinuation_of_toNat (by omega) (by omega)
  have hwhole : 0xD800 ≤ char.toNat → ¬ char.toNat < 0xE000 := by
    have hrange := toNat_range char
    omega
  simpa [three?, hcode, Char.ofNat_toNat, hfirst, hlast, hsecond, hthird, hlow] using hwhole

theorem four?_eq (ha : a.toNat = char.toNat / 262144 + 0xF0)
    (hb : b.toNat = char.toNat / 4096 % 64 + 0x80) (hc : c.toNat = char.toNat / 64 % 64 + 0x80)
    (hd : d.toNat = char.toNat % 64 + 0x80) (hlow : 0x10000 ≤ char.toNat) :
    four? a b c d = some char := by
  have hrange := toNat_range char
  have hhigh : char.toNat < 0x110000 := by omega
  have hcode : (((a.toNat - 0xF0) * 0x40 + payload b) * 0x40 + payload c) * 0x40 + payload d =
      char.toNat := by
    unfold payload
    omega
  have hfirst : 0xF0 ≤ a := UInt8.le_iff_toNat_le.mpr (show 0xF0 ≤ a.toNat by omega)
  have hlast : a < 0xF5 := UInt8.lt_iff_toNat_lt.mpr (show a.toNat < 0xF5 by omega)
  have hsecond : isContinuation b = true := isContinuation_of_toNat (by omega) (by omega)
  have hthird : isContinuation c = true := isContinuation_of_toNat (by omega) (by omega)
  have hfourth : isContinuation d = true := isContinuation_of_toNat (by omega) (by omega)
  simp [four?, hcode, Char.ofNat_toNat, hfirst, hlast, hsecond, hthird, hfourth, hlow, hhigh]

theorem char?_two (ha : ¬ a < 0x80) (h : two? a b = some char) (rest : Bytes) :
    char? a (b :: rest) = some (char, 1) := by
  unfold char?
  rw [if_neg ha]
  match rest with
  | [] => simp [h]
  | [c] => simp [h]
  | c :: d :: rest => simp [h]

theorem char?_three (ha : ¬ a < 0x80) (htwo : two? a b = none) (h : three? a b c = some char)
    (rest : Bytes) : char? a (b :: c :: rest) = some (char, 2) := by
  unfold char?
  rw [if_neg ha]
  match rest with
  | [] => simp [htwo, h]
  | d :: rest => simp [htwo, h]

theorem char?_four (ha : ¬ a < 0x80) (htwo : two? a b = none) (hthree : three? a b c = none)
    (h : four? a b c d = some char) (rest : Bytes) :
    char? a (b :: c :: d :: rest) = some (char, 3) := by
  unfold char?
  rw [if_neg ha]
  simp [htwo, hthree, h]

end Lengths

/-- The bytes of a character are read as that character. -/
theorem char?_utf8EncodeChar (char : Char) :
    ∃ byte continued, String.utf8EncodeChar char = byte :: continued ∧
      ∀ rest, char? byte (continued ++ rest) = some (char, continued.length) := by
  have hrange := toNat_range char
  have hval : char.val.toNat = char.toNat := rfl
  have hlead : ∀ {byte : UInt8}, 0x80 ≤ byte.toNat → ¬ byte < 0x80 := fun h =>
    UInt8.not_lt.mpr (UInt8.le_iff_toNat_le.mpr h)
  unfold String.utf8EncodeChar
  rw [hval]
  dsimp only
  split
  · have ha := toNat_ofNat_of_lt (n := char.toNat) (by omega)
    refine ⟨_, _, rfl, fun rest => ?_⟩
    unfold char?
    rw [if_pos (UInt8.lt_iff_toNat_lt.mpr (show _ < 0x80 by omega)), ha, Char.ofNat_toNat]
    rfl
  split
  · have ha := toNat_ofNat_of_lt (n := char.toNat / 64 % 32 + 192) (by omega)
    have hb := toNat_ofNat_of_lt (n := char.toNat % 64 + 128) (by omega)
    refine ⟨_, _, rfl, fun rest =>
      char?_two (hlead (by omega)) (two?_eq ?_ hb ?_ ?_) rest⟩ <;> omega
  split
  · have ha := toNat_ofNat_of_lt (n := char.toNat / 4096 % 16 + 224) (by omega)
    have hb := toNat_ofNat_of_lt (n := char.toNat / 64 % 64 + 128) (by omega)
    have hc := toNat_ofNat_of_lt (n := char.toNat % 64 + 128) (by omega)
    refine ⟨_, _, rfl, fun rest => char?_three (hlead (by omega)) (two?_of_le (by omega) _)
      (three?_eq ?_ hb hc ?_ ?_) rest⟩ <;> omega
  · have ha := toNat_ofNat_of_lt (n := char.toNat / 262144 % 8 + 240) (by omega)
    have hb := toNat_ofNat_of_lt (n := char.toNat / 4096 % 64 + 128) (by omega)
    have hc := toNat_ofNat_of_lt (n := char.toNat / 64 % 64 + 128) (by omega)
    have hd := toNat_ofNat_of_lt (n := char.toNat % 64 + 128) (by omega)
    refine ⟨_, _, rfl, fun rest => char?_four (hlead (by omega)) (two?_of_le (by omega) _)
      (three?_of_le (by omega) _ _) (four?_eq ?_ hb hc hd ?_) rest⟩ <;> omega

theorem scanFrom_length_append (skipped rest : Bytes) :
    scanFrom skipped.length (skipped ++ rest) = scanFrom 0 rest := by
  induction skipped with
  | nil => rfl
  | cons byte skipped ih => rwa [List.length_cons, List.cons_append, scanFrom]

/-- The bytes of a text are read as its characters. -/
theorem scan_encode (text : Text) : scan (encode text) = text.map some := by
  induction text with
  | nil => rfl
  | cons char text ih =>
    obtain ⟨byte, continued, hencode, hchar⟩ := char?_utf8EncodeChar char
    change scan (String.utf8EncodeChar char ++ encode text) = some char :: text.map some
    rw [hencode, List.cons_append, scan, scanFrom, hchar]
    dsimp only
    rw [scanFrom_length_append, ← ih, scan]

end Utf8

/-! ## Files -/

namespace FileStore

variable {m : Type → Type} [Monad m]

/-- Does something and then, if it was done, goes on. -/
def ifDone {α : Type} (first : m Bool) (next : m α) : m (Option α) := do
  if ← first then some <$> next else pure none

/-- The law that a file which was written holds what was written. -/
def ReadsBack (m : Type → Type) [Monad m] [FileStore m] : Prop :=
  ∀ (path : Text) (bytes : Utf8.Bytes),
    ifDone (m := m) (write path bytes) (read path) = ifDone (write path bytes) (pure (.ok bytes))

theorem ifDone_map [LawfulMonad m] {α β : Type} (first : m Bool) (f : α → β) (next : m α) :
    ifDone first (f <$> next) = Option.map f <$> ifDone first next := by
  unfold ifDone
  rw [map_bind]
  congr 1
  funext done
  cases done <;> simp

theorem ifDone_and [LawfulMonad m] {α : Type} (first second : m Bool) (next : m α) :
    ifDone (do if ← first then second else pure false) next =
      first >>= fun done => if done then ifDone second next else pure none := by
  unfold ifDone
  rw [bind_assoc]
  congr 1
  funext done
  cases done <;> simp

end FileStore

namespace FileTree

variable {tree : FileTree} {key other : FileKey} {entry : FileEntry}

/-- What was put in is found, unless a directory outside of the tree has its key. -/
theorem entry?_insert_self (h : tree.entry? key ≠ some .directory) :
    entry? (tree.insert key entry) key = some entry := by
  unfold entry? at h ⊢
  split at h
  · exact absurd rfl h
  · rename_i hkey
    rw [if_neg hkey, insert, List.lookup_cons_self]

theorem lookup_filter_ne (entries : List (FileKey × FileEntry)) (h : other ≠ key) :
    (entries.filter fun e => e.1 != key).lookup other = entries.lookup other := by
  induction entries with
  | nil => rfl
  | cons e entries ih =>
    by_cases hkey : e.1 = key
    · have hother : (other == e.1) = false := by simp [hkey, h]
      rw [List.filter_cons_of_neg (by simp [hkey]), ih, List.lookup_cons, hother]
    · rw [List.filter_cons_of_pos (by simp [hkey]), List.lookup_cons, List.lookup_cons, ih]

/-- Everything else stays where it is. -/
theorem entry?_insert_of_ne (h : other ≠ key) :
    entry? (tree.insert key entry) other = tree.entry? other := by
  have hother : (other == key) = false := by simp [h]
  unfold entry? insert
  split
  · rfl
  · rw [List.lookup_cons, hother]
    exact lookup_filter_ne tree.entries h

/-- The key at which a file may be written, where a path leads to one or to a free place. -/
def Place.fileKey? : Place → Option FileKey
  | .file key _ | .absent key => some key
  | .directory _ | .missing | .barred => none

theorem write_eq (tree : FileTree) (path : Text) (bytes : Utf8.Bytes) :
    tree.write path bytes =
      (tree.locate path).fileKey?.map fun key => tree.insert key (.file bytes) := by
  unfold write
  cases tree.locate path <;> rfl

/-- There is no directory where a file may be written. -/
theorem entry?_ne_of_follow {start : FileKey} {names : List Text}
    (h : (tree.follow start names).fileKey? = some key) : tree.entry? key ≠ some .directory := by
  fun_induction follow tree start names <;> simp_all [Place.fileKey?]

theorem entry?_insert_of_directory (hkey : tree.entry? key ≠ some .directory)
    (h : tree.entry? other = some .directory) :
    entry? (tree.insert key entry) other = some .directory := by
  have hne : other ≠ key := by
    rintro rfl
    exact hkey h
  rw [entry?_insert_of_ne hne, h]

/-- After a file is put where a path leads, the path leads to that file. -/
theorem follow_insert {start : FileKey} {names : List Text}
    (h : (tree.follow start names).fileKey? = some key) (bytes : Utf8.Bytes) :
    (tree.insert key (.file bytes)).follow start names = .file key bytes := by
  have hkey := entry?_ne_of_follow h
  have hself : entry? (tree.insert key (.file bytes)) key = some (.file bytes) :=
    entry?_insert_self hkey
  -- the directories on the way are still there
  have hdirectory : ∀ {other}, tree.entry? other = some .directory →
      entry? (tree.insert key (.file bytes)) other = some .directory :=
    entry?_insert_of_directory hkey
  fun_induction follow tree start names with
  | case1 start old hentry =>
    obtain rfl : start = key := Option.some.inj h
    rw [follow, hself]
  | case2 | case3 | case6 | case9 | case10 | case11 => exact absurd h (by simp [Place.fileKey?])
  | case4 start rest hentry ih =>
    rw [follow, hdirectory hentry]
    simpa using ih h
  | case5 start rest hentry hdot ih =>
    rw [follow, hdirectory hentry]
    simpa using ih h
  | case7 start name rest hentry hdot hup hlength entry hnext ih =>
    obtain ⟨found, hfound⟩ :
        ∃ found, entry? (tree.insert key (.file bytes)) (start ++ [name]) = some found := by
      by_cases heq : start ++ [name] = key
      · exact ⟨.file bytes, by rw [heq, hself]⟩
      · exact ⟨entry, by rw [entry?_insert_of_ne heq, hnext]⟩
    rw [follow, hdirectory hentry]
    simpa [hdot, hup, hlength, hfound] using ih h
  | case8 start name rest hentry hdot hup hlength hnext hrest =>
    obtain rfl : start ++ [name] = key := Option.some.inj h
    obtain rfl := List.isEmpty_iff.mp hrest
    rw [follow, hdirectory hentry]
    simp [hdot, hup, hlength, hself, follow]

theorem locate_insert {path : Text} (h : (tree.locate path).fileKey? = some key)
    (bytes : Utf8.Bytes) : (tree.insert key (.file bytes)).locate path = .file key bytes := by
  unfold locate at h ⊢
  split_ifs at h ⊢
  · exact absurd h (by simp [Place.fileKey?])
  · exact absurd h (by simp [Place.fileKey?])
  · exact absurd h (by simp [Place.fileKey?])
  · exact follow_insert h bytes
  · exact follow_insert h bytes

/-- A file that was written holds what was written. -/
theorem read_of_write {path : Text} {bytes : Utf8.Bytes} {tree' : FileTree}
    (h : tree.write path bytes = some tree') : tree'.read path = .ok bytes := by
  rw [write_eq] at h
  obtain ⟨key, hkey, rfl⟩ := Option.map_eq_some_iff.mp h
  rw [read, locate_insert hkey]

theorem ifDone_write_apply {α : Type} (path : Text) (bytes : Utf8.Bytes)
    (next : StateM FileTree α) (tree : FileTree) :
    FileStore.ifDone (FileStore.write path bytes) next tree =
      match tree.write path bytes with
      | some tree' => (some (next tree').1, (next tree').2)
      | none => (none, tree) := by
  change (FileStore.ifDone (attempt fun tree => tree.write path bytes) next) tree = _
  simp only [FileStore.ifDone, attempt, bind, StateT.bind]
  cases tree.write path bytes <;> rfl

/-- The tree of files obeys the law of files. -/
theorem readsBack : FileStore.ReadsBack (StateM FileTree) := by
  intro path bytes
  funext tree
  rw [ifDone_write_apply, ifDone_write_apply]
  cases hwrite : tree.write path bytes with
  | none => rfl
  | some tree' =>
    change (some (tree'.read path), tree') = (some (.ok bytes), tree')
    rw [read_of_write hwrite]

end FileTree

end EditPlayer
