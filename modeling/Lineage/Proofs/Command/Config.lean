import Mathlib
import Lineage.Proofs.Settings.Storage

/-! Changing the default ref in a file that holds an object. A file that is not well formed stands for
the default settings, so that a change of one member writes the defaults of the others. Main statement:
the other members keep what they hold if the file is well formed, and get the defaults otherwise. -/

namespace Lineage.Command

open Json (Document)
open Settings (Member Others WellFormed)

/-- The action that makes this the default ref, or leaves none. -/
def defaultRefAction : Option String → ConfigAction
  | some name => .setDefaultRef name
  | none => .clearDefaultRef

variable {store : SettingsStore} {content : String} {members : List (Option String × Document)}

theorem config_defaultRefAction (free : ¬ store.IsBlocked) (env : Environment) (ref : Option String) :
    let settings := { store.load with defaultRef := ref }
    let after := { store with folder := .present (.text settings.render) }
    config store env (defaultRefAction ref) = (after, .printed (settingsLines after settings)) := by
  have hsave := SettingsStore.save_of_not_isBlocked free { store.load with defaultRef := ref }
  cases ref <;> rw [defaultRefAction, config, change, SettingsStore.update, hsave] <;> rfl

theorem holds_others (s : Settings) (ref : Option String) :
    Others fun m => m.Holds { s with defaultRef := ref }.members (m.get s) where
  serverUrl := ⟨.text (some s.serverUrl), by simp [Settings.members, Member.serverUrl], rfl⟩
  maxDepth := ⟨.number (.ofInt s.maxDepth.toNat), by simp [Settings.members, Member.maxDepth],
    Settings.word?_document s.maxDepth⟩
  timeoutSecs := ⟨.number (.ofInt s.timeoutSecs.toNat), by simp [Settings.members, Member.timeoutSecs],
    Settings.word?_document s.timeoutSecs⟩
  maxRetries := ⟨.number (.ofInt s.maxRetries.toNat), by simp [Settings.members, Member.maxRetries],
    Settings.word?_document s.maxRetries⟩

theorem load_of_object (hcontent : store.content? = some content)
    (hobject : Document.parse? content = some (.object members)) :
    store.load = (Settings.ofDocument? (.object members)).getD .default := by
  rw [SettingsStore.load, hcontent, Option.bind_some, Settings.parse?, hobject, Option.bind_some]

/-- The change succeeds. -/
theorem default_ref_change_keeps_others (hcontent : store.content? = some content)
    (hobject : Document.parse? content = some (.object members)) (env : Environment)
    (ref : Option String) :
    ∃ after lines written members', config store env (defaultRefAction ref) = (after, .printed lines) ∧
      after.content? = some written ∧ Document.parse? written = some (.object members') ∧
      after.load.defaultRef = ref ∧
      (WellFormed members → Others fun m => ∀ v, m.Holds members v → m.Holds members' v) ∧
      (¬ WellFormed members → Others fun m => m.Holds members' (m.get .default)) := by
  have hconfig := config_defaultRefAction (SettingsStore.not_isBlocked_of_content? hcontent) env ref
  have hload := load_of_object hcontent hobject
  have hothers := holds_others store.load ref
  refine ⟨_, _, _, _, hconfig, rfl, Settings.parse?_render_members _, ?_, fun wellFormed => ?_,
    fun malformed => ?_⟩
  · rw [SettingsStore.load_of_content? rfl]
  · obtain ⟨s, hs⟩ := Settings.exists_ofDocument?_iff.2 wellFormed
    have hget := Settings.all_eq_get_of_holds hs
    obtain rfl : store.load = s := by rw [hload, hs, Option.getD_some]
    exact
      { serverUrl := fun v holds => hget.serverUrl v holds ▸ hothers.serverUrl
        maxDepth := fun v holds => hget.maxDepth v holds ▸ hothers.maxDepth
        timeoutSecs := fun v holds => hget.timeoutSecs v holds ▸ hothers.timeoutSecs
        maxRetries := fun v holds => hget.maxRetries v holds ▸ hothers.maxRetries }
  · have hnone : Settings.ofDocument? (.object members) = none := by
      rw [Option.eq_none_iff_forall_ne_some]
      exact fun s hs => malformed (Settings.exists_ofDocument?_iff.1 ⟨s, hs⟩)
    have hdefault : store.load = .default := by rw [hload, hnone, Option.getD_none]
    rw [← hdefault]
    exact hothers

/-- A file with a member that settings do not know. -/
def themedFile : String :=
  "\x7b\"serverUrl\":\"http://retro.example:9000\",\"theme\":[\x7b\x7d],\"maxRetries\":7\x7d"

theorem default_ref_change_keeps_others_beside_theme :
    ∃ (store after : SettingsStore) (lines : List String) (written : String)
      (members members' : List (Option String × Document)),
      store.content? = some themedFile ∧ Document.parse? themedFile = some (.object members) ∧
      WellFormed members ∧
      config store (fun _ => none) (.setDefaultRef "main") = (after, .printed lines) ∧
      after.content? = some written ∧ Document.parse? written = some (.object members') ∧
      Member.serverUrl.Holds members' "http://retro.example:9000" ∧
      Member.maxRetries.Holds members' 7 := by
  let store : SettingsStore := ⟨"cfg", .present (.text themedFile)⟩
  have hcontent : store.content? = some themedFile := rfl
  let members : List (Option String × Document) :=
    [(some "serverUrl", .text (some "http://retro.example:9000")),
      (some "theme", .array [.object []]), (some "maxRetries", .number (.ofInt 7))]
  have hobject : Document.parse? themedFile = some (.object members) := rfl
  have wellFormed : WellFormed members := Settings.exists_ofDocument?_iff.1
    ⟨⟨"http://retro.example:9000", none, Settings.default.maxDepth, 30, 7⟩, rfl⟩
  obtain ⟨after, lines, written, members', hconfig, hwritten, hparse, -, hkept, -⟩ :=
    default_ref_change_keeps_others hcontent hobject (fun _ => none) (some "main")
  have hothers := hkept wellFormed
  exact ⟨store, after, lines, written, _, members', hcontent, hobject, wellFormed, hconfig, hwritten,
    hparse, hothers.serverUrl _ ⟨_, List.mem_cons_self, rfl⟩,
    hothers.maxRetries _ ⟨_, List.mem_cons_of_mem _ (List.mem_cons_of_mem _ List.mem_cons_self), rfl⟩⟩

/-- A file whose default ref is a number. -/
def misnumberedFile : String :=
  "\x7b\"serverUrl\":\"http://retro.example:9000\",\"defaultRef\":5\x7d"

theorem default_ref_change_drops_server :
    ∃ (store after : SettingsStore) (lines : List String) (written : String)
      (members members' : List (Option String × Document)),
      store.content? = some misnumberedFile ∧
      Document.parse? misnumberedFile = some (.object members) ∧
      config store (fun _ => none) (.setDefaultRef "main") = (after, .printed lines) ∧
      after.content? = some written ∧ Document.parse? written = some (.object members') ∧
      Member.serverUrl.Holds members "http://retro.example:9000" ∧
      ¬ Member.serverUrl.Holds members' "http://retro.example:9000" := by
  let store : SettingsStore := ⟨"cfg", .present (.text misnumberedFile)⟩
  have hcontent : store.content? = some misnumberedFile := rfl
  have hobject : Document.parse? misnumberedFile = some (.object [
      (some "serverUrl", .text (some "http://retro.example:9000")),
      (some "defaultRef", .number (.ofInt 5))]) := rfl
  have hload : store.load = .default := load_of_object hcontent hobject
  have hconfig := config_defaultRefAction (SettingsStore.not_isBlocked_of_content? hcontent)
    (fun _ => none) (some "main")
  rw [hload] at hconfig
  refine ⟨store, _, _, _, _, _, hcontent, hobject, hconfig, rfl, Settings.parse?_render_members _,
    ⟨_, List.mem_cons_self, rfl⟩, fun holds => ?_⟩
  have hserver := (Settings.all_eq_get_of_holds (Settings.ofDocument?_members _)).serverUrl _ holds
  exact absurd hserver (by decide)

end Lineage.Command
