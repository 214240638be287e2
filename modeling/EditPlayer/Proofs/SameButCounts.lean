import EditPlayer.Proofs.PauseState
import EditPlayer.Script.Compilation
set_option autoImplicit false

/-!
# Settings are for counts only

The settings of a compilation say how counts are read, and nothing else depends on them.  The
statement is one about two compilations of a source, under any two settings.  It is proved by
forgetting the counts of an operation (`Operation.uncounted`): what is left of the reading of a line
is the same for both (`uncounted_readLine`), so the programs have the same operations but for their
counts, and the same diagnostics.

A pause is kept with its index and the digest of the source.  So a run that was suspended under one
of the settings goes on at the same operation under the other.  `compile_two_settings` collects all
this.
-/

namespace EditPlayer

/-! ## Operations without their counts -/

namespace Payload

/-- Payloads that agree but for the number in a count or the number of an occurrence. -/
inductive SameButCount : Payload → Payload → Prop where
  | count (m n : Nat) : SameButCount (.count m) (.count n)
  | text (text : Text) : SameButCount (.text text) (.text text)
  | pattern (pattern : Text) (m n : Nat) : SameButCount (.pattern pattern m) (.pattern pattern n)

/-- The payload with its number forgotten. -/
def uncounted : Payload → Payload
  | count _ => count 0
  | text t => text t
  | pattern p _ => pattern p 0

theorem sameButCount_of_uncounted {first second : Payload}
    (h : first.uncounted = second.uncounted) : first.SameButCount second := by
  cases first with
  | count m =>
    cases second with
    | count n => exact .count m n
    | text => cases h
    | pattern => cases h
  | text t =>
    cases second with
    | count => cases h
    | text => cases h; exact .text t
    | pattern => cases h
  | pattern p m =>
    cases second with
    | count => cases h
    | text => cases h
    | pattern _ n => cases h; exact .pattern p m n

end Payload

namespace Operation

/-- Operations that agree but for the number in their payload. -/
structure SameButCount (first second : Operation) : Prop where
  kind : first.kind = second.kind
  target : first.target = second.target
  movement : first.movement = second.movement
  payload : first.payload.SameButCount second.payload
  conversion : first.conversion = second.conversion
  select : first.select = second.select
  sourceLine : first.sourceLine = second.sourceLine

/-- The operation with the number in its payload forgotten. -/
def uncounted (operation : Operation) : Operation :=
  { operation with payload := operation.payload.uncounted }

theorem sameButCount_of_uncounted {first second : Operation}
    (h : first.uncounted = second.uncounted) : first.SameButCount second := by
  unfold uncounted at h
  injection h with hkind htarget hmovement hpayload hconversion hselect hline
  exact ⟨hkind, htarget, hmovement, Payload.sameButCount_of_uncounted hpayload, hconversion,
    hselect, hline⟩

end Operation

/-! ## Two readings of a line -/

namespace Script

/-- The reading of a line with the counts forgotten. -/
def Reading.uncounted (reading : Reading) : Reading :=
  { reading with operation := reading.operation.map Operation.uncounted }

variable (first second : Settings)

theorem uncounted_readMove (operation : Operation) (reported : List Text) (line word : Text)
    (rest : List Text) :
    (readMove first operation reported line word rest).uncounted =
      (readMove second operation reported line word rest).uncounted := by
  unfold readMove
  dsimp only
  split
  · rfl
  · split
    · unfold patternPayload?
      cases pattern? line <;> rfl
    · rfl

theorem uncounted_readInstruction (number : Nat) (line : Text) (select : Bool) :
    (readInstruction first number line select).uncounted =
      (readInstruction second number line select).uncounted := by
  unfold readInstruction
  dsimp only
  split
  · rfl
  · split
    · rfl
    · exact uncounted_readMove first second _ _ _ _ _
    · rfl
    · split
      · exact uncounted_readMove first second _ _ _ _ _
      · rfl

/-- Under any two settings a line is read alike, apart from its counts. -/
theorem uncounted_readLine (number : Nat) (raw : Text) :
    (readLine first number raw).uncounted = (readLine second number raw).uncounted := by
  unfold readLine
  dsimp only
  split
  · rfl
  · split
    · rfl
    · exact uncounted_readInstruction first second number _ _

theorem unknown_readLine (number : Nat) (raw : Text) :
    (readLine first number raw).unknown = (readLine second number raw).unknown := by
  have hunknown := congrArg Reading.unknown (uncounted_readLine first second number raw)
  exact hunknown

/-! ## Two compilations -/

theorem map_uncounted_operationsOf (numbered : List (Text × Nat)) :
    (operationsOf first numbered).map Operation.uncounted =
      (operationsOf second numbered).map Operation.uncounted := by
  unfold operationsOf
  rw [List.map_filterMap, List.map_filterMap]
  congr 1
  funext ⟨raw, number⟩
  exact congrArg Reading.operation (uncounted_readLine first second number raw)

theorem diagnosticsOf_eq (numbered : List (Text × Nat)) :
    diagnosticsOf first numbered = diagnosticsOf second numbered := by
  unfold diagnosticsOf
  congr 1
  funext ⟨raw, number⟩
  dsimp only
  rw [unknown_readLine first second]

theorem map_uncounted_compile (source : Text) :
    (compile first source).program.operations.map Operation.uncounted =
      (compile second source).program.operations.map Operation.uncounted :=
  map_uncounted_operationsOf first second (numberedLines source)

/-- Operations at the same place of the two programs agree but for their counts. -/
theorem sameButCount_compile {source : Text} {i : Nat} {a b : Operation}
    (ha : (compile first source).program.operations[i]? = some a)
    (hb : (compile second source).program.operations[i]? = some b) : a.SameButCount b := by
  have hsame := congrArg (·[i]?) (map_uncounted_compile first second source)
  rw [List.getElem?_map, List.getElem?_map, ha, hb] at hsame
  exact Operation.sameButCount_of_uncounted (Option.some.inj hsame)

theorem length_compile (source : Text) :
    (compile first source).program.operations.length =
      (compile second source).program.operations.length := by
  have hlength := congrArg List.length (map_uncounted_compile first second source)
  rwa [List.length_map, List.length_map] at hlength

end Script

/-! ## Resuming under other settings -/

namespace Player

variable {σ ε : Type}

/-- A play that is suspended leaves the pause behind at which it stopped. -/
theorem startOf_of_paused {surface : Surface σ ε} {program : Program} {player after : Player}
    {state final : σ} {index : Nat}
    (h : player.play surface program state = .ok (.paused index, after, final)) :
    (∃ pause, program.operations[index]? = some pause ∧ pause.kind = .pause) ∧
      after.startOf program.digest = (index + 1, after.memory) := by
  have hne : program.operations ≠ [] := by
    intro hnil
    rw [play_empty surface hnil] at h
    cases h
  obtain ⟨start, entered, -, houtcome, -, hafter⟩ := eq_of_play hne h
  refine ⟨Operation.exists_pause_of_outcomeFrom houtcome.symm, ?_⟩
  rw [hafter]
  simp [startOf, settle]

end Player

namespace Script

open Player

/-- Two compilations of a source under any two settings have the same diagnostics and the same
digest, and equally many operations, which agree at each place but for the number in a count or the
number of an occurrence.  So a play of the one program that is suspended by a pause is resumed
behind the same pause by the other program. -/
theorem compile_two_settings (first second : Settings) (source : Text) :
    (compile first source).diagnostics = (compile second source).diagnostics ∧
      (compile first source).program.digest = (compile second source).program.digest ∧
      (compile first source).program.operations.length =
        (compile second source).program.operations.length ∧
      (∀ (i : Nat) (a b : Operation), (compile first source).program.operations[i]? = some a →
        (compile second source).program.operations[i]? = some b → a.SameButCount b) ∧
      ∀ {σ ε σ' ε' : Type} (surface : Surface σ ε) (surface' : Surface σ' ε')
        (player after : Player) (state final : σ) (index : Nat) (state' : σ'),
        player.play surface (compile first source).program state =
          .ok (.paused index, after, final) →
        (∃ pause, (compile second source).program.operations[index]? = some pause ∧
          pause.kind = .pause) ∧
        after.playMemory surface' (compile second source).program state' =
          if index + 1 < wordLimit then
            playFrom surface' (compile second source).program.operations (index + 1) after.memory
              state'
          else .error .resumeOverflow := by
  refine ⟨diagnosticsOf_eq first second _, rfl, length_compile first second source,
    fun i a b => sameButCount_compile first second, ?_⟩
  intro σ ε σ' ε' surface surface' player after state final index state' hplay
  obtain ⟨⟨pause, hpause, hkind⟩, hstart⟩ := startOf_of_paused hplay
  have hlt : index < (compile second source).program.operations.length := by
    rw [← length_compile first second]
    exact (List.getElem?_eq_some_iff.mp hpause).1
  have hother := List.getElem?_eq_getElem hlt
  have hne : (compile second source).program.operations ≠ [] :=
    List.ne_nil_of_length_pos (Nat.zero_lt_of_lt hlt)
  refine ⟨⟨_, hother, ?_⟩, ?_⟩
  · rw [← (sameButCount_compile first second hpause hother).kind]
    exact hkind
  · have hsame : (compile second source).program.digest = (compile first source).program.digest :=
      rfl
    rw [playMemory_eq surface' hne, hsame, hstart]

/-- A source with a pause between a long count and a missing one. -/
def pauseBetween : Text := "move right 345\npause\nmove match-in-line-forward [//]".toList

/-- The first digit of the count is read, and then all three; the run goes on behind the pause. -/
theorem compile_two_settings_pauseBetween :
    ∃ after final,
      play Document.surface (compile ⟨1, 7⟩ pauseBetween).program .fresh (Document.ofText ['a']) =
        .ok (.paused 1, after, final) ∧
      after.playMemory Document.surface (compile {} pauseBetween).program final =
        playFrom Document.surface (compile {} pauseBetween).program.operations 2 after.memory
          final := by
  have hpaused : ∃ after final,
      play Document.surface (compile ⟨1, 7⟩ pauseBetween).program .fresh
        (Document.ofText ['a']) = .ok (.paused 1, after, final) := ⟨_, _, rfl⟩
  obtain ⟨after, final, hplay⟩ := hpaused
  obtain ⟨-, -, -, -, hresume⟩ := compile_two_settings ⟨1, 7⟩ {} pauseBetween
  obtain ⟨-, hagain⟩ := hresume Document.surface Document.surface _ _ _ _ 1 final hplay
  have hfits : 1 + 1 < wordLimit := by decide
  rw [if_pos hfits] at hagain
  exact ⟨after, final, hplay, hagain⟩

end Script

end EditPlayer
