import Mathlib
import Lineage.Command.Config

/-! The settings that are shown and those that commands run with. What is shown comes from the file and
the environment; a command also takes a server from its command line, and counts a depth or a timeout of
zero as one. Main statement: what is shown is in force exactly if none of the three comes in. -/

namespace Lineage

/-- The settings are what the commands that talk to a server run with. -/
structure Setup.InForce (setup : Setup) (s : Settings) : Prop where
  serverUrl : setup.settings.serverUrl = s.serverUrl
  defaultRef : setup.settings.defaultRef = s.defaultRef
  /-- A walk of no checkpoints at all is one of at most one. -/
  maxDepth : max 1 (setup.depth none) = s.maxDepth.toNat
  timeout : setup.settings.timeout = .ofSeconds s.timeoutSecs.toNat
  maxRetries : setup.client.retry.maxRetries = s.maxRetries.toNat

namespace Settings

/-- The least depth and the least number of seconds are one. -/
def atLeastOne (s : Settings) : Settings :=
  { s with maxDepth := max 1 s.maxDepth, timeoutSecs := max 1 s.timeoutSecs }

theorem toNat_max_one (n : UInt64) : (max 1 n).toNat = max 1 n.toNat := UInt64.toNat_max 1 n

theorem max_one_eq_self {n : UInt64} : n = max 1 n ↔ n ≠ 0 := by
  rw [Ne, ← UInt64.toNat_inj, ← UInt64.toNat_inj, toNat_max_one, UInt64.toNat_zero]
  omega

end Settings

theorem Duration.seconds_ofSeconds (n : UInt64) : (ofSeconds n.toNat).seconds = n.toNat := by
  have hlt : n.toNat < UInt64.size := n.toNat_lt
  have hle : n.toNat * 1000000000 ≤ maxNanoseconds := by
    rw [maxNanoseconds]
    omega
  rw [seconds, ofSeconds, ofNanoseconds]
  dsimp only
  rw [Nat.min_eq_left hle, Nat.mul_div_cancel _ (by decide)]

namespace Setup

/-- From the file, the environment and the command line, in the order in which they give way. -/
theorem load_settings (store : SettingsStore) (env : Environment) (flag : Option String)
    (session : String) :
    (load store env flag session).settings =
      let shown := store.load.withEnvironment env
      { shown with serverUrl := flag.getD shown.serverUrl } := rfl

/-- Exactly these settings are in force. -/
theorem inForce_load_iff {store : SettingsStore} {env : Environment} {flag : Option String}
    {session : String} {s : Settings} :
    (load store env flag session).InForce s ↔
      s = (load store env flag session).settings.atLeastOne := by
  set setup := load store env flag session with hsetup
  have hretries : setup.client.retry.maxRetries = setup.settings.maxRetries.toNat :=
    Settings.maxRetries_retryPolicy setup.settings
  constructor
  · intro h
    have hdepth : s.maxDepth = max 1 setup.settings.maxDepth := by
      rw [← UInt64.toNat_inj, Settings.toNat_max_one]
      exact h.maxDepth.symm
    have htimeout : s.timeoutSecs = max 1 setup.settings.timeoutSecs := by
      have hseconds := congrArg Duration.seconds h.timeout
      rw [Settings.timeout, ← Settings.toNat_max_one, Duration.seconds_ofSeconds,
        Duration.seconds_ofSeconds] at hseconds
      exact UInt64.toNat_inj.1 hseconds.symm
    have hmax : s.maxRetries = setup.settings.maxRetries :=
      UInt64.toNat_inj.1 (h.maxRetries.symm.trans hretries)
    cases s
    rw [Settings.atLeastOne, h.serverUrl, h.defaultRef]
    cases hdepth
    cases htimeout
    cases hmax
    rfl
  · rintro rfl
    exact
      { serverUrl := rfl
        defaultRef := rfl
        maxDepth := (Settings.toNat_max_one _).symm
        timeout := congrArg Duration.ofSeconds (Settings.toNat_max_one _).symm
        maxRetries := hretries }

end Setup

namespace Command

/-- The lines tell the settings apart, but for the name of a default ref. -/
theorem settingsLines_eq_iff {store : SettingsStore} {a b : Settings}
    (ref : a.defaultRef = b.defaultRef) :
    settingsLines store a = settingsLines store b ↔ a.serverUrl = b.serverUrl ∧
      a.maxDepth = b.maxDepth ∧ a.timeoutSecs = b.timeoutSecs ∧ a.maxRetries = b.maxRetries := by
  have number {m n : UInt64} : toString m.toNat = toString n.toNat ↔ m = n :=
    Nat.repr_inj.trans UInt64.toNat_inj
  simp only [settingsLines, ref, List.cons.injEq, true_and, and_true, String.append_right_inj,
    String.append_left_inj, number]

/-- For every file, environment and command line. -/
theorem shown_settings_in_force_iff (store : SettingsStore) (env : Environment)
    (flag : Option String) (session : String) :
    let shown := store.load.withEnvironment env
    ∃ s, (∀ other, (Setup.load store env flag session).InForce other ↔ other = s) ∧
      config store env .show = (store, .printed (settingsLines store shown)) ∧
      (settingsLines store shown = settingsLines store s ↔
        (flag = none ∨ flag = some shown.serverUrl) ∧ shown.maxDepth ≠ 0 ∧ shown.timeoutSecs ≠ 0) ∧
      (shown.serverUrl = s.serverUrl ↔ flag = none ∨ flag = some shown.serverUrl) ∧
      shown.defaultRef = s.defaultRef ∧ (shown.maxDepth = s.maxDepth ↔ shown.maxDepth ≠ 0) ∧
      (shown.timeoutSecs = s.timeoutSecs ↔ shown.timeoutSecs ≠ 0) ∧ shown.maxRetries = s.maxRetries := by
  intro shown
  let s := (Setup.load store env flag session).settings.atLeastOne
  have hserver : shown.serverUrl = s.serverUrl ↔ flag = none ∨ flag = some shown.serverUrl := by
    change shown.serverUrl = flag.getD shown.serverUrl ↔ _
    cases flag with
    | none => simp
    | some server => simp [eq_comm]
  have hdepth : shown.maxDepth = s.maxDepth ↔ shown.maxDepth ≠ 0 := Settings.max_one_eq_self
  have htimeout : shown.timeoutSecs = s.timeoutSecs ↔ shown.timeoutSecs ≠ 0 := Settings.max_one_eq_self
  refine ⟨s, fun other => Setup.inForce_load_iff, rfl, ?_, hserver, rfl, hdepth, htimeout, rfl⟩
  have href : shown.defaultRef = s.defaultRef := rfl
  have hretries : shown.maxRetries = s.maxRetries := rfl
  rw [settingsLines_eq_iff href, hserver, hdepth, htimeout]
  simp [hretries]

/-- A file with a depth and a timeout of zero. -/
def zeroFile : String := "\x7b\"maxDepth\":0,\"timeoutSecs\":0\x7d"

/-- With a server on the command line none of the three lines tells what is in force. -/
theorem shown_settings_not_in_force :
    ∃ (store : SettingsStore) (env : Environment) (s : Settings) (lines : List String),
      store.content? = some zeroFile ∧
      (∀ session, (Setup.load store env (some "http://flag.test") session).InForce s) ∧
      config store env .show = (store, .printed lines) ∧
      lines ≠ settingsLines store s ∧
      lines = ["Settings file: cfg/settings.json", "   Server URL: http://localhost:8080",
        "   Default ref: (last ref listed by the server)", "   Max depth: 0", "   Timeout: 0s",
        "   Max retries: 3"] ∧
      settingsLines store s = ["Settings file: cfg/settings.json", "   Server URL: http://flag.test",
        "   Default ref: (last ref listed by the server)", "   Max depth: 1", "   Timeout: 1s",
        "   Max retries: 3"] := by
  let store : SettingsStore := ⟨"cfg", .present (.text zeroFile)⟩
  let env : Environment := fun _ => none
  let s : Settings := ⟨"http://flag.test", none, 1, 1, 3⟩
  have hload : store.load = ⟨"http://localhost:8080", none, 0, 0, 3⟩ := rfl
  refine ⟨store, env, s, settingsLines store (store.load.withEnvironment env), rfl, fun session => ?_, rfl,
    ?_, ?_, ?_⟩
  · rw [Setup.inForce_load_iff, Setup.load_settings, hload]
    rfl
  · rw [hload]; decide +kernel
  · rw [hload]; decide +kernel
  · decide +kernel

end Command

end Lineage
