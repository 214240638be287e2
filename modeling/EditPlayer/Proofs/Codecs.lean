import EditPlayer.Player.Snapshot
import EditPlayer.Preferences.Basic
import EditPlayer.Proofs.StoredFiles
import EditPlayer.Proofs.WrittenJson
import EditPlayer.Script.Compilation
import Mathlib.Data.List.Nodup
set_option autoImplicit false

/-!
# Values survive as JSON

Every record of this library is written with each of its fields once, so reading finds all of them
(`Json.record?_record`); the fields themselves are read as they are written.  What is left to say
for each type is which of its values can be read back at all: those whose numbers are words
(`Position.Fits` and so on).  `values_read_back` puts it all together, from texts to files.
-/

namespace EditPlayer

/-! ## Records -/

namespace Json

/-- The first member with a name is the one that has it, if no two have the same. -/
theorem find?_member {members : List (Option Text × Json)} (hnodup : (members.map (·.1)).Nodup)
    {member : Option Text × Json} (h : member ∈ members) :
    members.find? (fun m => m.1 == member.1) = some member := by
  induction members with
  | nil => exact absurd h List.not_mem_nil
  | cons first rest ih =>
    rw [List.map_cons, List.nodup_cons] at hnodup
    rcases List.mem_cons.mp h with rfl | hrest
    · rw [List.find?_cons_of_pos (by simp)]
    · have hne : first.1 ≠ member.1 := fun heq =>
        hnodup.1 (heq ▸ List.mem_map_of_mem hrest)
      rw [List.find?_cons_of_neg (by simpa using hne), ih hnodup.2 hrest]

/-- No name is found twice if no two members have the same. -/
theorem length_filter_name_le {members : List (Option Text × Json)}
    (hnodup : (members.map (·.1)).Nodup) (name : Option Text) :
    (members.filter fun m => m.1 == name).length ≤ 1 := by
  have hcount := List.nodup_iff_count_le_one.mp hnodup name
  rwa [List.count, List.countP_map, List.countP_eq_length_filter] at hcount

theorem fields?_record {members : List (String × Json)} (h : (members.map (·.1)).Nodup) :
    fields? ((members.map (·.1)).map String.toList)
        (members.map fun m => (some m.1.toList, m.2)) =
      some (members.map fun m => some m.2) := by
  have hnodup : ((members.map fun m => (some m.1.toList, m.2)).map (·.1)).Nodup := by
    have hinjective : Function.Injective fun name : String => some name.toList :=
      fun _ _ heq => String.toList_inj.mp (Option.some.inj heq)
    have hnames := h.map hinjective
    rw [List.map_map] at hnames ⊢
    exact hnames
  have honce := fun name : Text => length_filter_name_le hnodup (some name)
  rw [fields?, if_pos (by simp [honce]), List.map_map, List.map_map]
  congr 1
  refine List.map_congr_left fun m hm => ?_
  have hfound := find?_member hnodup (List.mem_map_of_mem hm)
  dsimp only [Function.comp_apply] at hfound ⊢
  rw [hfound, Option.map_some]

/-- A record gives each of its fields the value that is written for it. -/
theorem record?_record {members : List (String × Json)} {names : List String}
    (hnames : members.map (·.1) = names) (h : names.Nodup) :
    (record members).record? names = some (members.map fun m => some m.2) := by
  subst hnames
  exact fields?_record h

theorem shortRecord?_record {members : List (String × Json)} {names : List String}
    (hnames : members.map (·.1) = names) (h : names.Nodup) :
    (record members).shortRecord? names = some (members.map fun m => some m.2) := by
  subst hnames
  exact fields?_record h

/-- The items of a list are read back if each of them is. -/
theorem list?_ofList {α : Type} {write : α → Json} {read : Json → Option α} {list : List α}
    (h : ∀ a ∈ list, read (write a) = some a) : list? read (ofList write list) = some list := by
  change (list.map write).mapM read = some list
  induction list with
  | nil => rfl
  | cons a list ih =>
    rw [List.forall_mem_cons] at h
    simp [h.1, ih h.2]

/-- An optional part is read back if nothing but its absence is written as `null`. -/
theorem optional_ofOption {α : Type} {write : α → Json} {read : Json → Option α}
    {value : Option α} (hnull : ∀ a, write a ≠ null)
    (h : ∀ a, value = some a → read (write a) = some a) :
    optional read (some (ofOption write value)) = some value := by
  cases value with
  | none => rfl
  | some a =>
    rw [ofOption, optional, h a rfl, Option.map_some]
    exact hnull a

theorem named?_ofNamed {α : Type} [Named α] {member : α}
    (h : Named.ofName? (Named.name member) = some member) : named? (ofNamed member) = some member :=
  h

@[simp] theorem plain_ofNamed {α : Type} [Named α] (member : α) : Plain (ofNamed member) :=
  plain_ofText (Named.name member)

end Json

/-! ## Positions -/

/-- A position whose line and column are words. -/
def Position.Fits (p : Position) : Prop := p.line < wordLimit ∧ p.column < wordLimit

@[simp] theorem Position.plain_toJson (p : Position) : p.toJson.Plain :=
  Json.plain_record (by simp)

theorem Position.ofJson?_toJson {p : Position} (h : p.Fits) : ofJson? p.toJson = some p := by
  have hfields : p.toJson.record? ["line", "column"] =
      some [some (.ofNat p.line), some (.ofNat p.column)] :=
    Json.record?_record rfl (by decide)
  simp [ofJson?, hfields, Json.required, Json.nat?_ofNat h.1, Json.nat?_ofNat h.2]

def Range.Fits (range : Range) : Prop := range.start.Fits ∧ range.stop.Fits

theorem Range.plain_toJson (range : Range) : range.toJson.Plain :=
  Json.plain_record (by simp)

theorem Range.ofJson?_toJson {range : Range} (h : range.Fits) :
    ofJson? range.toJson = some range := by
  have hfields : range.toJson.record? ["start", "end"] =
      some [some range.start.toJson, some range.stop.toJson] :=
    Json.record?_record rfl (by decide)
  simp [ofJson?, hfields, Json.required, Position.ofJson?_toJson h.1, Position.ofJson?_toJson h.2]

def Selection.Fits (selection : Selection) : Prop := selection.anchor.Fits ∧ selection.active.Fits

theorem Selection.plain_toJson (selection : Selection) : selection.toJson.Plain :=
  Json.plain_record (by simp)

theorem Selection.ofJson?_toJson {selection : Selection} (h : selection.Fits) :
    ofJson? selection.toJson = some selection := by
  have hfields : selection.toJson.record? ["anchor", "active"] =
      some [some selection.anchor.toJson, some selection.active.toJson] :=
    Json.record?_record rfl (by decide)
  simp [ofJson?, hfields, Json.required, Position.ofJson?_toJson h.1, Position.ofJson?_toJson h.2]

/-! ## Operations -/

namespace Payload

theorem Shape.ofName?_name (shape : Shape) : Named.ofName? (Named.name shape) = some shape := by
  cases shape <;> decide

/-- A payload whose number is a word. -/
def Fits : Payload → Prop
  | count n => n < wordLimit
  | text _ => True
  | pattern _ n => n < wordLimit

@[simp] theorem plain_toJson (payload : Payload) : payload.toJson.Plain := by
  cases payload with
  | count n => exact Json.plain_record (by simp)
  | text t => exact Json.plain_record (by simp)
  | pattern p n =>
    have hvalue : (Json.record [("pattern", .ofText p), ("occurrence", .ofNat n)]).Plain :=
      Json.plain_record (by simp)
    exact Json.plain_record (by simp [hvalue])

/-- A type in front of its value is read with it, at any depth. -/
theorem ofJson?_record (depth : Nat) (shape : Shape) (value : Json) :
    ofJson? depth (.record [("type", .ofNamed shape), ("value", value)]) =
      ofValue? shape value := by
  have hfields : Json.fields? ["type".toList, "value".toList]
      [(some "type".toList, .ofNamed shape), (some "value".toList, value)] =
        some [some (.ofNamed shape), some value] :=
    @Json.fields?_record [("type", .ofNamed shape), ("value", value)] (by simp)
  have hfirst : comesFirst "type".toList "value".toList
      [(some "type".toList, .ofNamed shape), (some "value".toList, value)] = true := by
    rw [comesFirst, if_pos rfl]
  simp only [Json.record, List.map_cons, List.map_nil]
  rw [ofJson?, hfields]
  dsimp only
  rw [hfirst, Bool.true_or, if_pos rfl, Json.named?_ofNamed (Shape.ofName?_name shape),
    Option.bind_some]

theorem ofJson?_toJson {payload : Payload} (h : payload.Fits) (depth : Nat) :
    ofJson? depth payload.toJson = some payload := by
  cases payload with
  | count n => rw [toJson, ofJson?_record, ofValue?, Json.nat?_ofNat h, Option.map_some]
  | text t => rw [toJson, ofJson?_record, ofValue?, Json.text?_ofText, Option.map_some]
  | pattern p n =>
    have hfields : Json.fields? ["pattern".toList, "occurrence".toList]
        [(some "pattern".toList, .ofText p), (some "occurrence".toList, .ofNat n)] =
          some [some (.ofText p), some (.ofNat n)] :=
      @Json.fields?_record [("pattern", .ofText p), ("occurrence", .ofNat n)] (by simp)
    rw [toJson, ofJson?_record]
    simp only [Json.record, List.map_cons, List.map_nil]
    rw [ofValue?, hfields]
    simp [Json.required, Json.nat?_ofNat h]

end Payload

/-- An operation whose numbers are words. -/
def Operation.Fits (operation : Operation) : Prop :=
  operation.payload.Fits ∧ operation.sourceLine < wordLimit

@[simp] theorem Operation.plain_toJson (operation : Operation) : operation.toJson.Plain :=
  Json.plain_record (by simp [Json.Plain.bool])

theorem Json.optional_ofNamed {α : Type} [Named α]
    (h : ∀ member : α, Named.ofName? (Named.name member) = some member) (value : Option α) :
    optional named? (some (ofOption ofNamed value)) = some value :=
  optional_ofOption (fun _ => Json.noConfusion) fun member _ => named?_ofNamed (h member)

theorem Operation.ofJson?_toJson {operation : Operation} (h : operation.Fits) (depth : Nat) :
    ofJson? depth operation.toJson = some operation := by
  have hfields : operation.toJson.record? fieldNames =
      some [some (.ofNamed operation.kind), some (.ofOption .ofNamed operation.target),
        some (.ofOption .ofNamed operation.movement), some operation.payload.toJson,
        some (.ofOption .ofNamed operation.conversion), some (.bool operation.select),
        some (.ofNat operation.sourceLine)] :=
    Json.record?_record rfl (by decide)
  rw [ofJson?, hfields]
  simp [Json.required, Json.named?_ofNamed (Kind.ofName?_name operation.kind),
    Json.optional_ofNamed Target.ofName?_name, Json.optional_ofNamed Movement.ofName?_name,
    Json.optional_ofNamed Conversion.ofName?_name, Payload.ofJson?_toJson h.1,
    Json.nat?_ofNat h.2]

/-! ## Programs and diagnostics -/

/-- A program whose operations have words for numbers. -/
def Program.Fits (program : Program) : Prop := ∀ operation ∈ program.operations, operation.Fits

theorem Program.plain_toJson (program : Program) : program.toJson.Plain :=
  Json.plain_record (by simp)

theorem Program.ofJson?_toJson {program : Program} (h : program.Fits) :
    ofJson? program.toJson = some program := by
  have hfields : program.toJson.record? ["operations", "digest"] =
      some [some (.ofList Operation.toJson program.operations), some (.ofText program.digest)] :=
    Json.record?_record rfl (by decide)
  have hoperations :
      Json.list? (Operation.ofJson? 2) (.ofList Operation.toJson program.operations) =
        some program.operations :=
    Json.list?_ofList fun operation hmem => Operation.ofJson?_toJson (h operation hmem) 2
  simp [ofJson?, hfields, Json.required, hoperations]

def Diagnostic.Fits (diagnostic : Diagnostic) : Prop := diagnostic.lineNumber < wordLimit

theorem Diagnostic.plain_toJson (diagnostic : Diagnostic) : diagnostic.toJson.Plain :=
  Json.plain_record (by simp)

theorem Diagnostic.ofJson?_toJson {diagnostic : Diagnostic} (h : diagnostic.Fits) :
    ofJson? diagnostic.toJson = some diagnostic := by
  have hfields : diagnostic.toJson.record? ["line_number", "raw_line", "unrecognized_token"] =
      some [some (.ofNat diagnostic.lineNumber), some (.ofText diagnostic.rawLine),
        some (.ofText diagnostic.word)] :=
    Json.record?_record rfl (by decide)
  simp [ofJson?, hfields, Json.required, Json.nat?_ofNat h]

/-! ## Snapshots and outcomes -/

/-- A snapshot whose positions and index are words. -/
def Snapshot.Fits (snapshot : Snapshot) : Prop :=
  (∀ p ∈ snapshot.positionStack, p.Fits) ∧
    ∀ index, snapshot.pauseIndex = some index → index < wordLimit

theorem Snapshot.plain_toJson (snapshot : Snapshot) : snapshot.toJson.Plain :=
  Json.plain_record (by simp)

theorem Snapshot.ofJson?_toJson {snapshot : Snapshot} (h : snapshot.Fits) :
    ofJson? snapshot.toJson = some snapshot := by
  have hfields :
      snapshot.toJson.record? ["position_stack", "text_stack", "pause_index", "paused_digest"] =
        some [some (.ofList Position.toJson snapshot.positionStack),
          some (.ofList Json.ofText snapshot.textStack),
          some (.ofOption Json.ofNat snapshot.pauseIndex),
          some (.ofOption Json.ofText snapshot.pausedDigest)] :=
    Json.record?_record rfl (by decide)
  have hpositions : Json.list? Position.ofJson? (.ofList Position.toJson snapshot.positionStack) =
      some snapshot.positionStack :=
    Json.list?_ofList fun p hp => Position.ofJson?_toJson (h.1 p hp)
  have htexts : Json.list? Json.text? (.ofList Json.ofText snapshot.textStack) =
      some snapshot.textStack :=
    Json.list?_ofList fun text _ => Json.text?_ofText text
  have hindex : Json.optional Json.nat? (some (.ofOption Json.ofNat snapshot.pauseIndex)) =
      some snapshot.pauseIndex :=
    Json.optional_ofOption (fun _ => Json.noConfusion) fun index hsome =>
      Json.nat?_ofNat (h.2 index hsome)
  have hdigest : Json.optional Json.text? (some (.ofOption Json.ofText snapshot.pausedDigest)) =
      some snapshot.pausedDigest :=
    Json.optional_ofOption (fun _ => Json.noConfusion) fun text _ => Json.text?_ofText text
  rw [ofJson?, hfields]
  simp [Json.required, hpositions, htexts, hindex, hdigest]

namespace Outcome

/-- An outcome whose index is a word. -/
def Fits : Outcome → Prop
  | completed => True
  | returned => True
  | paused index => index < wordLimit

theorem plain_toJson (outcome : Outcome) : outcome.toJson.Plain := by
  cases outcome with
  | completed => exact Json.plain_ofText _
  | returned => exact Json.plain_ofText _
  | paused index =>
    have hdata : (Json.record [("index", .ofNat index)]).Plain := Json.plain_record (by simp)
    exact Json.plain_record (by simp [hdata])

theorem ofJson?_toJson {outcome : Outcome} (h : outcome.Fits) :
    ofJson? outcome.toJson = some outcome := by
  cases outcome with
  | completed => decide
  | returned => decide
  | paused index =>
    have hfields : (Json.record [("index", .ofNat index)]).record? ["index"] =
        some [some (.ofNat index)] :=
      Json.record?_record rfl (by decide)
    have hvariant : ∀ name, ¬ (paused index).toJson.variant? = some name := fun _ => nofun
    unfold ofJson?
    rw [if_neg (hvariant _), if_neg (hvariant _)]
    change (if "Paused".toList = "Paused".toList then
      pauseOfJson? (.record [("index", .ofNat index)]) else none) = some (paused index)
    rw [if_pos rfl, pauseOfJson?, hfields]
    simp [Json.required, Json.nat?_ofNat h]

end Outcome

/-! ## Preferences -/

def Settings.Fits (settings : Settings) : Prop :=
  settings.countDigits < wordLimit ∧ settings.defaultCount < wordLimit

@[simp] theorem Settings.plain_toJson (settings : Settings) : settings.toJson.Plain :=
  Json.plain_record (by simp)

theorem Settings.ofJson?_toJson {settings : Settings} (h : settings.Fits) :
    ofJson? settings.toJson = some settings := by
  have hfields : settings.toJson.shortRecord? ["count_digits", "default_count"] =
      some [some (.ofNat settings.countDigits), some (.ofNat settings.defaultCount)] :=
    Json.shortRecord?_record rfl (by decide)
  simp [ofJson?, hfields, Json.defaulted, Json.nat?_ofNat h.1, Json.nat?_ofNat h.2]

namespace Preferences

def Fits (preferences : Preferences) : Prop := preferences.settings.Fits

theorem plain_toJson (preferences : Preferences) : preferences.toJson.Plain :=
  Json.plain_record (by simp [Json.Plain.bool])

theorem ofJson?_toJson {preferences : Preferences} (h : preferences.Fits) :
    ofJson? preferences.toJson = some preferences := by
  have hfields : preferences.toJson.shortRecord? ["compiler", "debug"] =
      some [some preferences.settings.toJson, some (.bool preferences.debug)] :=
    Json.shortRecord?_record rfl (by decide)
  simp [ofJson?, hfields, Json.defaulted, Settings.ofJson?_toJson h]

/-- What loading gives for stored preferences: themselves if they can be used, and otherwise why
they cannot. -/
def verdict (preferences : Preferences) : Except LoadError Preferences :=
  match preferences.invalid? with
  | none => .ok preferences
  | some cause => .error (.invalid cause)

theorem ofBytes_encode_toText {preferences : Preferences} (h : preferences.Fits) :
    ofBytes (Utf8.encode preferences.toText) = preferences.verdict := by
  have hread : Json.readSymbols? (Utf8.scan (Utf8.encode preferences.toText)) =
      some preferences.toJson := by
    rw [Utf8.scan_encode]
    exact preferences.plain_toJson.readSymbols?_pretty
  rw [ofBytes, hread, Option.bind_some, ofJson?_toJson h, verdict]
  dsimp only
  cases preferences.invalid? <;> rfl

/-- What loading makes of a file. -/
def ofFile (path : Text) : Except ReadFailure Utf8.Bytes → Except LoadError Preferences
  | .ok bytes => ofBytes bytes
  | .error .missing => .error (.notFound path)
  | .error .unreadable => .error .unreadable

variable {m : Type → Type} [Monad m] [LawfulMonad m] [FileStore m]

theorem load_eq_map (path : Text) : load (m := m) path = ofFile path <$> FileStore.read path := by
  rw [load, map_eq_pure_bind]
  congr 1
  funext found
  match found with
  | .ok bytes => rfl
  | .error .missing => rfl
  | .error .unreadable => rfl

/-- Preferences that were stored are loaded, or refused for the reason that `invalid?` gives. -/
theorem load_of_store (hfiles : FileStore.ReadsBack m) (path : Text) {preferences : Preferences}
    (h : preferences.Fits) :
    FileStore.ifDone (m := m) (preferences.store path) (load path) =
      FileStore.ifDone (preferences.store path) (pure preferences.verdict) := by
  have hwritten : FileStore.ifDone (m := m)
        (FileStore.write path (Utf8.encode preferences.toText)) (load path) =
      FileStore.ifDone (FileStore.write path (Utf8.encode preferences.toText))
        (pure preferences.verdict) := by
    rw [load_eq_map, FileStore.ifDone_map, hfiles, ← FileStore.ifDone_map, map_pure, ofFile,
      ofBytes_encode_toText h]
  unfold store
  rw [FileStore.ifDone_and, FileStore.ifDone_and, hwritten]

end Preferences

/-! ## All values -/

/-- Writing a value without white space and reading the text gives the value back, for every value
that fits. -/
def ReadsBack {α : Type} (Fits : α → Prop) (write : α → Json) (ofJson? : Json → Option α) : Prop :=
  ∀ value, Fits value → (Json.read? (write value).compact).bind ofJson? = some value

theorem readsBack_of_plain {α : Type} {Fits : α → Prop} {write : α → Json}
    {ofJson? : Json → Option α} (hplain : ∀ value, (write value).Plain)
    (h : ∀ value, Fits value → ofJson? (write value) = some value) :
    ReadsBack Fits write ofJson? := by
  intro value hfits
  rw [(hplain value).read?_compact, Option.bind_some, h value hfits]

/-- Every value whose numbers are words survives being written as JSON.  Preferences also survive in
a file, from which they are loaded unless they cannot be used. -/
theorem values_read_back :
    ReadsBack Operation.Fits Operation.toJson (Operation.ofJson? 0) ∧
      ReadsBack Program.Fits Program.toJson Program.ofJson? ∧
      ReadsBack Diagnostic.Fits Diagnostic.toJson Diagnostic.ofJson? ∧
      ReadsBack Snapshot.Fits Snapshot.toJson Snapshot.ofJson? ∧
      ReadsBack Outcome.Fits Outcome.toJson Outcome.ofJson? ∧
      ReadsBack Position.Fits Position.toJson Position.ofJson? ∧
      ReadsBack Range.Fits Range.toJson Range.ofJson? ∧
      ReadsBack Selection.Fits Selection.toJson Selection.ofJson? ∧
      ReadsBack Preferences.Fits Preferences.toJson Preferences.ofJson? ∧
      ∀ (m : Type → Type) [Monad m] [LawfulMonad m] [FileStore m], FileStore.ReadsBack m →
        ∀ (path : Text) (preferences : Preferences), preferences.Fits →
          FileStore.ifDone (m := m) (preferences.store path) (Preferences.load path) =
            FileStore.ifDone (preferences.store path) (pure preferences.verdict) :=
  ⟨readsBack_of_plain Operation.plain_toJson fun _ h => Operation.ofJson?_toJson h 0,
    readsBack_of_plain Program.plain_toJson fun _ h => Program.ofJson?_toJson h,
    readsBack_of_plain Diagnostic.plain_toJson fun _ h => Diagnostic.ofJson?_toJson h,
    readsBack_of_plain Snapshot.plain_toJson fun _ h => Snapshot.ofJson?_toJson h,
    readsBack_of_plain Outcome.plain_toJson fun _ h => Outcome.ofJson?_toJson h,
    readsBack_of_plain Position.plain_toJson fun _ h => Position.ofJson?_toJson h,
    readsBack_of_plain Range.plain_toJson fun _ h => Range.ofJson?_toJson h,
    readsBack_of_plain Selection.plain_toJson fun _ h => Selection.ofJson?_toJson h,
    readsBack_of_plain Preferences.plain_toJson fun _ h => Preferences.ofJson?_toJson h,
    fun _ _ _ _ hfiles path _ h => Preferences.load_of_store hfiles path h⟩

/-- A move to a pattern of characters that have to be escaped, on the last line that has a
number. -/
def awkwardMove : Operation where
  kind := .move
  target := some .backwardMatch
  movement := some .matchInLine
  payload := .pattern ['"', '\\', '\n', Char.ofNat 1, 'é', '𝄞'] (wordLimit - 1)
  select := true
  sourceLine := wordLimit - 1

/-- Preferences under which a line without a count would do nothing. -/
def idlePreferences : Preferences where
  settings := { defaultCount := 0 }

/-- The awkward move is read back, the default preferences are loaded from the file that stores
them, and the idle ones are refused. -/
theorem values_read_back_awkwardMove :
    (Json.read? awkwardMove.toJson.compact).bind (Operation.ofJson? 0) = some awkwardMove ∧
      (FileStore.ifDone (m := StateM FileTree) (Preferences.store ['p'] {})
        (Preferences.load ['p']) {}).1 = some (.ok {}) ∧
      (FileStore.ifDone (m := StateM FileTree) (idlePreferences.store ['p'])
        (Preferences.load ['p']) {}).1 = some (.error (.invalid .defaultCount)) := by
  obtain ⟨hoperation, -, -, -, -, -, -, -, -, hfile⟩ := values_read_back
  have hfits : awkwardMove.Fits := ⟨show wordLimit - 1 < wordLimit by decide, by decide⟩
  refine ⟨hoperation awkwardMove hfits, ?_, ?_⟩
  · rw [hfile (StateM FileTree) FileTree.readsBack ['p'] {} ⟨by decide, by decide⟩]
    rfl
  · rw [hfile (StateM FileTree) FileTree.readsBack ['p'] idlePreferences ⟨by decide, by decide⟩]
    rfl

end EditPlayer
