import Mathlib
import Lineage.Command.Config
import Lineage.Proofs.Settings.Reading

/-! A store over a run of steps. At any step something outside may change what stands where the settings
belong, and each step has an environment of its own. Main statement: what a step stores is loaded until
it is stored anew or changed from outside, a step that fails leaves all as it was, and what is stored
depends on the text before and on the change only. -/

namespace Lineage

/-- Why the settings could not be stored, if that is what failed. -/
def Report.fault? (r : Report) : Option StoreFault :=
  match r.failure with
  | some (.store fault) => some fault
  | _ => none

namespace Command

/-- What an action makes of the stored settings, if it changes them. -/
def ConfigAction.change? : ConfigAction → Option (Settings → Settings)
  | .show => none
  | .setServer url =>
    match Url.server url with
    | .error _ => none
    | .ok _ => some fun s => { s with serverUrl := Text.trim url }
  | .setDefaultRef name => some fun s => { s with defaultRef := some name }
  | .clearDefaultRef => some fun s => { s with defaultRef := none }

variable {action : ConfigAction} {f : Settings → Settings}

theorem config_of_change (h : action.change? = some f) (store : SettingsStore) (env : Environment) :
    ∃ heading, config store env action = change store heading f := by
  cases action with
  | «show» => cases h
  | setServer url =>
      rw [ConfigAction.change?] at h
      cases hserver : Url.server url with
      | error fault => rw [hserver] at h; cases h
      | ok server =>
          rw [hserver] at h
          cases h
          exact ⟨["✅ Server set to " ++ server.text], by rw [config, hserver]⟩
  | setDefaultRef name => cases h; exact ⟨[], rfl⟩
  | clearDefaultRef => cases h; exact ⟨[], rfl⟩

/-- Settings are shown, or the server is refused. -/
theorem config_of_no_change (h : action.change? = none) (store : SettingsStore) (env : Environment) :
    (config store env action).1 = store ∧ (config store env action).2.fault? = none := by
  cases action with
  | «show» => exact ⟨rfl, rfl⟩
  | setServer url =>
      rw [ConfigAction.change?] at h
      cases hserver : Url.server url with
      | error fault => rw [config, hserver]; exact ⟨rfl, rfl⟩
      | ok server => rw [hserver] at h; cases h
  | setDefaultRef name => cases h
  | clearDefaultRef => cases h

end Command

namespace SettingsStore

/-- What may happen to a store. -/
inductive Step
  /-- Something else puts this where the settings belong. -/
  | outside (folder : SettingsFolder)
  | save (settings : Settings)
  | update (change : Settings → Settings)
  | config (action : Command.ConfigAction)

namespace Step

def isOutside : Step → Bool
  | .outside _ => true
  | _ => false

/-- What a step makes of the stored settings, if it is to store any. -/
def change? : Step → Option (Settings → Settings)
  | .outside _ => none
  | .save settings => some fun _ => settings
  | .update change => some change
  | .config action => action.change?

end Step

/-- The store after a step, and why the settings were not stored if that failed. -/
def perform (s : SettingsStore) (env : Environment) : Step → SettingsStore × Option StoreFault
  | .outside folder => ({ s with folder }, none)
  | .save settings =>
    match s.save settings with
    | .error fault => (s, some fault)
    | .ok after => (after, none)
  | .update change =>
    match s.update change with
    | .error fault => (s, some fault)
    | .ok (after, _) => (after, none)
  | .config action =>
    let (after, report) := Command.config s env action
    (after, report.fault?)

/-- The store after a run, the first step first. -/
def after (s : SettingsStore) (run : List (Environment × Step)) : SettingsStore :=
  run.foldl (fun s (env, step) => (s.perform env step).1) s

/-- Nothing is changed from outside, and no settings are stored. -/
def Quiet (s : SettingsStore) : List (Environment × Step) → Prop
  | [] => True
  | (env, step) :: rest =>
    step.isOutside = false ∧ (step.change?.isSome → (s.perform env step).2.isSome) ∧
      Quiet (s.perform env step).1 rest

/-- A file stands in the place of the directory, or a directory in the place of the file. -/
def IsBlocked (s : SettingsStore) : Prop :=
  s.folder = .blocked ∨ s.folder = .present .blocked

variable {s other : SettingsStore} {settings : Settings} {f : Settings → Settings} {step : Step}
  {env : Environment}

theorem save_of_isBlocked (h : s.IsBlocked) (settings : Settings) :
    ∃ fault, s.save settings = .error fault := by
  rcases h with h | h
  · exact ⟨.folderBlocked s.path, by rw [save, h]⟩
  · exact ⟨.fileBlocked s.filePath, by rw [save, h]⟩

theorem save_of_not_isBlocked (h : ¬ s.IsBlocked) (settings : Settings) :
    s.save settings = .ok { s with folder := .present (.text settings.render) } := by
  rw [save]
  split
  · rename_i hfolder
    exact absurd (.inl hfolder) h
  · rename_i hfile
    exact absurd (.inr hfile) h
  · rfl

theorem not_isBlocked_of_content? {content : String} (h : s.content? = some content) :
    ¬ s.IsBlocked := by
  rintro (hfolder | hfolder) <;> rw [content?, hfolder] at h <;> cases h

theorem load_of_content? (h : s.content? = some settings.render) : s.load = settings := by
  rw [load, h, Option.bind_some, Settings.parse?_render, Option.getD_some]

theorem load_congr (h : s.content? = other.content?) : s.load = other.load := by
  rw [load, load, h]

theorem update_eq (s : SettingsStore) (f : Settings → Settings) :
    s.update f = (s.save (f s.load)).map fun after => (after, f s.load) := rfl

/-- All steps that store settings store them in the same way. -/
theorem perform_of_change (h : step.change? = some f) (env : Environment) :
    s.perform env step =
      match s.save (f s.load) with
      | .error fault => (s, some fault)
      | .ok after => (after, none) := by
  cases step with
  | outside folder => cases h
  | save settings => cases h; rfl
  | update change =>
      obtain rfl : change = f := Option.some.inj h
      rw [perform, update_eq]
      cases s.save (change s.load) <;> rfl
  | config action =>
      obtain ⟨heading, hconfig⟩ := Command.config_of_change h s env
      rw [perform, hconfig, Command.change, update_eq]
      cases s.save (f s.load) <;> rfl

theorem perform_of_isBlocked (h : step.change? = some f) (blocked : s.IsBlocked) (env : Environment) :
    ∃ fault, s.perform env step = (s, some fault) := by
  obtain ⟨fault, hsave⟩ := save_of_isBlocked blocked (f s.load)
  exact ⟨fault, by rw [perform_of_change h, hsave]⟩

theorem perform_of_not_isBlocked (h : step.change? = some f) (free : ¬ s.IsBlocked)
    (env : Environment) :
    s.perform env step = ({ s with folder := .present (.text (f s.load).render) }, none) := by
  rw [perform_of_change h, save_of_not_isBlocked free]

theorem perform_of_no_change (h : step.change? = none) (inside : step.isOutside = false)
    (env : Environment) : s.perform env step = (s, none) := by
  cases step with
  | outside folder => cases inside
  | save settings => cases h
  | update change => cases h
  | config action =>
      obtain ⟨hstore, hfault⟩ := Command.config_of_no_change h s env
      exact Prod.ext hstore hfault

/-- The environment has no part in what is stored. -/
theorem perform_env (s : SettingsStore) (step : Step) (env other : Environment) :
    s.perform env step = s.perform other step := by
  cases hchange : step.change? with
  | some f => rw [perform_of_change hchange, perform_of_change hchange]
  | none =>
      cases inside : step.isOutside with
      | false => rw [perform_of_no_change hchange inside, perform_of_no_change hchange inside]
      | true =>
          cases step with
          | outside folder => rfl
          | _ => cases inside

theorem after_cons (s : SettingsStore) (env : Environment) (step : Step)
    (rest : List (Environment × Step)) :
    s.after ((env, step) :: rest) = (s.perform env step).1.after rest := rfl

/-- Two runs of the same steps end in the same store. -/
theorem after_of_same_steps {run others : List (Environment × Step)}
    (h : others.map Prod.snd = run.map Prod.snd) (s : SettingsStore) : s.after others = s.after run := by
  induction run generalizing s others with
  | nil => rw [List.map_eq_nil_iff.1 h]
  | cons first run ih =>
      cases others with
      | nil => cases h
      | cons other others =>
          obtain ⟨hstep, hrest⟩ := List.cons.inj h
          obtain ⟨env, step⟩ := first
          obtain ⟨otherEnv, otherStep⟩ := other
          obtain rfl : otherStep = step := hstep
          rw [after_cons, after_cons, perform_env s otherStep otherEnv env]
          exact ih hrest _

/-- A step that is not from outside and stores nothing changes nothing. -/
theorem perform_of_quiet (inside : step.isOutside = false)
    (unstored : step.change?.isSome → (s.perform env step).2.isSome) : (s.perform env step).1 = s := by
  cases hchange : step.change? with
  | none => rw [perform_of_no_change hchange inside]
  | some f =>
      by_cases blocked : s.IsBlocked
      · obtain ⟨fault, hperform⟩ := perform_of_isBlocked hchange blocked env
        rw [hperform]
      · -- with nothing in the way the step would have stored its settings
        rw [hchange, perform_of_not_isBlocked hchange blocked] at unstored
        cases unstored rfl

theorem after_of_quiet {run : List (Environment × Step)} (quiet : s.Quiet run) : s.after run = s := by
  induction run with
  | nil => rfl
  | cons first run ih =>
      obtain ⟨inside, unstored, rest⟩ := quiet
      rw [perform_of_quiet inside unstored] at rest
      exact (after_cons s first.1 first.2 run).trans
        ((congrArg (·.after run) (perform_of_quiet inside unstored)).trans (ih rest))

/-- What became of a change of the stored settings. -/
structure Stores (before : SettingsStore) (f : Settings → Settings) (after : SettingsStore)
    (fault : Option StoreFault) : Prop where
  fails_iff : fault.isSome ↔ before.IsBlocked
  kept : fault.isSome → after = before
  written : fault = none → after.content? = some (f before.load).render
  loaded : fault = none → ∀ later, after.Quiet later → (after.after later).load = f before.load

theorem stores_perform (h : step.change? = some f) (s : SettingsStore) (env : Environment) :
    Stores s f (s.perform env step).1 (s.perform env step).2 := by
  by_cases blocked : s.IsBlocked
  · obtain ⟨fault, hperform⟩ := perform_of_isBlocked h blocked env
    rw [hperform]
    exact ⟨⟨fun _ => blocked, fun _ => rfl⟩, fun _ => rfl, nofun, nofun⟩
  · rw [perform_of_not_isBlocked h blocked]
    refine ⟨⟨nofun, fun hblocked => absurd hblocked blocked⟩, nofun, fun _ => rfl, fun _ later quiet => ?_⟩
    rw [after_of_quiet quiet]
    exact load_of_content? rfl

/-- An update returns the settings that it stored. -/
theorem update_returns {stored : SettingsStore × Settings} (h : s.update f = .ok stored)
    (env : Environment) : stored = ((s.perform env (.update f)).1, f s.load) := by
  rw [perform, h]
  cases hsave : s.save (f s.load) with
  | error fault => rw [update_eq, hsave] at h; cases h
  | ok after => rw [update_eq, hsave] at h; cases h; rfl

/-- In any run, whatever the environments of its steps. -/
theorem stored_until_changed (start : SettingsStore) (earlier : List (Environment × Step))
    (env : Environment) (step : Step) (f : Settings → Settings) (h : step.change? = some f) :
    let before := start.after earlier
    let result := before.perform env step
    Stores before f result.1 result.2 ∧
    (∀ stored, step = .update f → before.update f = .ok stored → stored = (result.1, f before.load)) ∧
    (∀ others otherEnv, others.map Prod.snd = earlier.map Prod.snd →
      (start.after others).perform otherEnv step = result) ∧
    ∀ (other : SettingsStore) otherEnv, other.content? = before.content? → result.2 = none →
      (other.perform otherEnv step).2 = none →
      (other.perform otherEnv step).1.content? = result.1.content? := by
  refine ⟨stores_perform h _ env, ?_, fun others otherEnv hsteps => ?_, ?_⟩
  · rintro stored rfl hstored
    exact update_returns hstored env
  · rw [after_of_same_steps hsteps]
    exact perform_env _ step otherEnv env
  · intro other otherEnv hcontent hfault hother
    rw [(stores_perform h other otherEnv).written hother, (stores_perform h _ env).written hfault,
      load_congr hcontent]

/-- A ref with a quote, a line end, a control character and one beyond the first plane, stored after a
failure. -/
theorem stored_until_changed_for_strange_ref :
    ∃ (env : Environment) (blocked kept : SettingsStore) (ref : String),
      env Settings.refVariable = some "other" ∧ ref = "a\"b\n\x01😀" ∧
      Step.change? (.config (.setDefaultRef ref)) = some (fun s => { s with defaultRef := some ref }) ∧
      (SettingsStore.mk "cfg" (.present (.text "junk"))).after
        [(env, .outside .blocked), (env, .save .default)] = blocked ∧ blocked.folder = .blocked ∧
      (blocked.after [(env, .outside .absent)]).perform env (.config (.setDefaultRef ref)) = (kept, none) ∧
      (kept.after [(env, .config .show), (env, .config .show)]).load =
        { Settings.default with defaultRef := some ref } := by
  let env : Environment := fun _ => some "other"
  have hstores := stored_until_changed ⟨"cfg", .present (.text "junk")⟩
    [(env, .outside .blocked), (env, .save .default), (env, .outside .absent)] env
    (.config (.setDefaultRef "a\"b\n\x01😀")) _ rfl
  exact ⟨env, _, _, _, rfl, rfl, rfl, rfl, rfl, rfl,
    hstores.1.loaded rfl _ ⟨rfl, nofun, rfl, nofun, trivial⟩⟩

end SettingsStore

end Lineage
