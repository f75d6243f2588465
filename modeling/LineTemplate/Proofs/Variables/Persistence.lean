import LineTemplate.Proofs.Sources.Isolation
import LineTemplate.Proofs.Sources.Passing

/-!
# Variables keep a value

No line takes a setting away: a `DEFINE` gives a value, and nothing else touches the settings. The
layers of a source are the same at all of its lines. So a variable that has a value at a line has
one at all later lines of the source, whatever the lines in between start.
-/

namespace LineTemplate

namespace Settings

/-- What has a value in some settings has one in others. -/
def Grows (s s' : Settings) : Prop :=
  ∀ name, (s.get? name).isSome = true → (s'.get? name).isSome = true

variable {s s' s'' : Settings}

theorem Grows.refl (s : Settings) : s.Grows s :=
  fun _ known => known

theorem Grows.trans (h : s.Grows s') (h' : s'.Grows s'') : s.Grows s'' :=
  fun name known => h' name (h name known)

theorem grows_define (s : Settings) (name value : Text) : s.Grows (s.define name value) := by
  intro other known
  have found : (s.define name value).get? other =
    if other = name then some value else s.get? other := Bindings.get?_insert ..
  rw [found]
  split
  · rfl
  · exact known

end Settings

theorem Scopes.isSome_visible {s s' : Settings} (h : s.Grows s') {scopes : Scopes}
    {mark name : Text} (known : (scopes.visible s mark name).isSome = true) :
    (scopes.visible s' mark name).isSome = true := by
  have kept : ∀ name, (scopes.get? s name).isSome = true → (scopes.get? s' name).isSome = true := by
    intro name known
    rw [get?, Option.isSome_or, Bool.or_eq_true] at known ⊢
    exact known.imp_right (h name)
  rw [visible, Option.isSome_or, Bool.or_eq_true] at known ⊢
  refine known.imp (kept name) fun known => ?_
  cases stripped : Text.stripPrefix? mark name with
  | none =>
    rw [stripped] at known
    cases known
  | some bare =>
    rw [stripped] at known
    exact kept bare known

namespace Run

/-- A way to visit a source that takes no setting away. -/
def KeepsSettings (visitor : Run → Outcome) : Prop :=
  ∀ run after, visitor run = .ok after → run.settings.Grows after.settings

section

variable {env : Environment} {loops deeper : Run → Visit → Outcome} {run run' after : Run}
  {line : Line} {location : Location} {task : Task} {bound levels room n : Nat}

theorem Action.settings {role : Role} (h : Action env run location role run' task) :
    run.settings.Grows run'.settings := by
  cases h with
  | assigned _ name value => exact Settings.grows_define run.settings name value
  | _ => exact .refl _

theorem Effect.settings (h : Effect env run line run' task) :
    run.settings.Grows run'.settings := by
  cases h with
  | captured => exact .refl _
  | completed _ _ completes =>
    obtain ⟨-, macros, rfl⟩ := complete_task completes
    exact .refl _
  | executed _ action => exact action.settings

theorem perform_settings (hl : ∀ source, KeepsSettings (loops · source))
    (hd : ∀ source, KeepsSettings (deeper · source))
    (h : run.perform loops deeper task = .ok after) : run.settings.Grows after.settings := by
  cases task with
  | none =>
    cases h
    exact .refl _
  | iterate iterations =>
    exact Outcome.foldlM_preserves (P := fun next => run.settings.Grows next.settings)
      (fun reached r next grown hr => grown.trans (hl (.replay r) reached next hr)) (.refl _) h
  | call | includeFile =>
    obtain ⟨ended, hv, rfl⟩ := Outcome.map_eq_ok.mp h
    have grown := hd _ _ _ hv
    exact grown

theorem process_settings (hl : ∀ source, KeepsSettings (loops · source))
    (hd : ∀ source, KeepsSettings (deeper · source))
    (h : process env loops deeper run line = .ok after) : run.settings.Grows after.settings := by
  obtain ⟨⟨routed, task⟩, hr, hp⟩ := Outcome.bind_eq_ok.mp h
  exact (effect_of_route hr).settings.trans (perform_settings hl hd hp)

theorem Reads.settings {does : Run → Line → Run → Prop} {source : Visit} {started : Run}
    (grows : ∀ {run line run'}, does run line run' → run.settings.Grows run'.settings)
    (h : Reads does source started n run) : started.settings.Grows run.settings := by
  induction h with
  | start => exact .refl _
  | line _ next done ih =>
    obtain ⟨files, rfl, -⟩ := Visit.files_of_next? next
    have grown := grows done
    exact ih.trans grown

theorem visit_settings (hl : ∀ source, KeepsSettings (loops · source))
    (hd : ∀ source, KeepsSettings (deeper · source)) (source : Visit) :
    KeepsSettings (visit (process env loops deeper) bound · source) := by
  intro run after h
  obtain ⟨started, last, finished, hs, reads, -, hf⟩ := visit_ok h
  obtain ⟨files, scopes, margin, rfl⟩ := start_ok hs
  obtain ⟨-, files, scopes, rfl⟩ := finish_ok hf
  have grown := reads.settings fun done => process_settings hl hd done
  exact grown

theorem visitWithin_settings (hd : ∀ source, KeepsSettings (deeper · source)) (room : Nat) :
    ∀ source, KeepsSettings (visitWithin env deeper room · source) :=
  visitWithin_induction (Q := fun _ visitor => KeepsSettings visitor) nofun
    (fun _ _ hl => visit_settings hl hd) room

theorem visitBelow_settings (levels : Nat) :
    ∀ source, KeepsSettings (visitBelow env levels · source) :=
  visitBelow_induction (Q := fun _ visitor => KeepsSettings visitor) nofun
    (fun _ _ _ hl hd => visit_settings hl hd) levels

theorem stepWithin_settings (h : stepWithin env levels room run line = .ok after) :
    run.settings.Grows after.settings :=
  process_settings (visitWithin_settings (visitBelow_settings levels) room)
    (visitBelow_settings levels) h

/-- What has a value at a line of a source has one at the later lines of it. -/
theorem Passes.isSome_visible {source : Visit} {lines : List Line} {final : Run} {name : Text}
    (h : Passes (stepWithin env levels room) source n run lines final)
    (within : run.captures.Within n) (known : (run.visible env name).isSome = true) :
    (final.visible env name).isSome = true := by
  induction h with
  | nil => exact known
  | @cons n run taken run' final line lines next done _ ih =>
    obtain ⟨files, rfl, -⟩ := Visit.files_of_next? next
    have unread : ({ run with files } : Run).captures.Within n := within
    obtain ⟨kept, -, captures⟩ := stepWithin_keeps unread done
    have scopes : run'.scopes = run.scopes := kept.scopes
    have grown := stepWithin_settings done
    refine ih captures ?_
    rw [visible, scopes]
    exact Scopes.isSome_visible grown known

end

end Run

end LineTemplate
