import Mathlib
import Lineage.Proofs.Text.Blank
import Lineage.Proofs.Browser.Run
import Lineage.Proofs.Settings.Storage

/-! Changing the server that is stored. The text is read as a URL before anything is written; what is
stored is the text without the blanks at its ends, which is read as the same URL. Main statement: a text
that is no server's leaves the store as it is, and one that is stored is where later commands connect
to, with nothing else changed. -/

namespace Lineage

/-- Blanks at the ends of a text make no difference to the server that it names. -/
theorem Url.server_trim (raw : String) : Url.server (Text.trim raw) = Url.server raw := by
  rw [server, Text.trim, String.toList_ofList, Text.trimmed_trimmed, ← server]

namespace Setup

/-- With no server from the command line or the environment the file's is taken. -/
theorem load_serverUrl (store : SettingsStore) {env : Environment} (session : String)
    (h : Settings.nonBlank? env Settings.serverVariable = none) :
    (load store env none session).settings.serverUrl = store.load.serverUrl := by
  change (Settings.nonBlank? env Settings.serverVariable).getD store.load.serverUrl = _
  rw [h, Option.getD_none]

end Setup

namespace Command

variable {store : SettingsStore} {raw : String} {base : Url} {fault : UrlFault}

theorem config_setServer_of_error (h : Url.server raw = .error fault) (store : SettingsStore)
    (env : Environment) :
    config store env (.setServer raw) = (store, .failed (.serverRefused (.invalidUrl raw fault))) := by
  rw [config, h]

theorem config_setServer_of_isBlocked (h : Url.server raw = .ok base) (blocked : store.IsBlocked)
    (env : Environment) :
    ∃ fault, config store env (.setServer raw) = (store, .failed (.store fault)) := by
  obtain ⟨fault, hsave⟩ := SettingsStore.save_of_isBlocked blocked
    { store.load with serverUrl := Text.trim raw }
  refine ⟨fault, ?_⟩
  rw [config, h]
  simp only [change, SettingsStore.update_eq, hsave]
  rfl

theorem config_setServer_of_ok (h : Url.server raw = .ok base) (free : ¬ store.IsBlocked)
    (env : Environment) :
    let settings := { store.load with serverUrl := Text.trim raw }
    let after := { store with folder := .present (.text settings.render) }
    config store env (.setServer raw) =
      (after, .printed (("✅ Server set to " ++ base.text) :: settingsLines after settings)) := by
  have hsave := SettingsStore.save_of_not_isBlocked free
    { store.load with serverUrl := Text.trim raw }
  rw [config, h]
  simp only [change, SettingsStore.update_eq, hsave]
  rfl

/-- What a stored server means to the commands that are run later. -/
structure ServerStored (before : SettingsStore) (raw : String) (base : Url) (after : SettingsStore)
    (report : Report) : Prop where
  printed : report = .printed (("✅ Server set to " ++ base.text) :: settingsLines after after.load)
  loaded : after.load = { before.load with serverUrl := Text.trim raw }
  read : Url.server after.load.serverUrl = .ok base
  /-- As long as nothing is changed, and unless the environment names a server. -/
  connects : ∀ later env session, after.Quiet later →
    Settings.nonBlank? env Settings.serverVariable = none →
    let setup := Setup.load (after.after later) env none session
    Url.server setup.settings.serverUrl = .ok base ∧ setup.connect = .ok ⟨setup.client, base⟩

theorem serverStored_of_load {after : SettingsStore} {report : Report}
    (h : Url.server raw = .ok base)
    (printed : report = .printed (("✅ Server set to " ++ base.text) :: settingsLines after after.load))
    (loaded : after.load = { store.load with serverUrl := Text.trim raw }) :
    ServerStored store raw base after report := by
  have hread : Url.server after.load.serverUrl = .ok base := by rw [loaded, Url.server_trim, h]
  refine ⟨printed, loaded, hread, fun later env session quiet unset => ?_⟩
  have hurl : Url.server (Setup.load (after.after later) env none session).settings.serverUrl =
      .ok base := by
    rw [SettingsStore.after_of_quiet quiet, Setup.load_serverUrl after session unset, hread]
  refine ⟨hurl, ?_⟩
  rw [Setup.connect, Server.connect, hurl]
  rfl

/-- For every text, every store and every environment. -/
theorem stored_server_is_used (store : SettingsStore) (env : Environment) (raw : String) :
    let result := config store env (.setServer raw)
    (∀ fault, Url.server raw = .error fault →
      result = (store, .failed (.serverRefused (.invalidUrl raw fault)))) ∧
    (result.2.failure = none ↔ ¬ store.IsBlocked ∧ ∃ base, Url.server raw = .ok base) ∧
    (result.2.failure ≠ none → result.1 = store) ∧
    (result.2.failure = none →
      ∃ base, Url.server raw = .ok base ∧ ServerStored store raw base result.1 result.2) := by
  refine ⟨fun fault h => config_setServer_of_error h store env, ?_⟩
  cases hserver : Url.server raw with
  | error fault =>
      rw [config_setServer_of_error hserver]
      exact ⟨⟨nofun, fun h => nomatch h.2⟩, fun _ => rfl, nofun⟩
  | ok base =>
      by_cases blocked : store.IsBlocked
      · obtain ⟨fault, hconfig⟩ := config_setServer_of_isBlocked hserver blocked env
        rw [hconfig]
        exact ⟨⟨nofun, fun h => absurd blocked h.1⟩, fun _ => rfl, nofun⟩
      · rw [config_setServer_of_ok hserver blocked env]
        have hload := SettingsStore.load_of_content? (s := { store with folder := .present (.text
          { store.load with serverUrl := Text.trim raw }.render) }) rfl
        refine ⟨iff_of_true rfl ⟨blocked, base, rfl⟩, fun h => absurd rfl h, fun _ => ?_⟩
        refine ⟨base, rfl, serverStored_of_load hserver ?_ hload⟩
        rw [hload]

/-- A server on this machine, typed between blanks while the environment names another one. -/
theorem stored_server_is_used_between_blanks :
    ∃ (env : Environment) (after : SettingsStore) (report : Report) (session : String),
      env Settings.serverVariable = some "http://[::2]" ∧
      Url.server "\u00a0http://[::1]:8080\t\r" = .ok (Browser.localServer 8080) ∧
      config ⟨"cfg", .absent⟩ env (.setServer "\u00a0http://[::1]:8080\t\r") = (after, report) ∧
      report.failure = none ∧ after.load.serverUrl = "http://[::1]:8080" ∧
      Settings.nonBlank? (fun _ => none) Settings.serverVariable = none ∧
      let setup := Setup.load after (fun _ => none) none session
      setup.connect = .ok ⟨setup.client, Browser.localServer 8080⟩ := by
  let env : Environment := fun _ => some "http://[::2]"
  have hserver : Url.server "\u00a0http://[::1]:8080\t\r" = .ok (Browser.localServer 8080) := by
    decide +kernel
  have free : ¬ (SettingsStore.mk "cfg" .absent).IsBlocked := by
    rintro (h | h) <;> cases h
  obtain ⟨-, hfailure, -, hstored⟩ :=
    stored_server_is_used ⟨"cfg", .absent⟩ env "\u00a0http://[::1]:8080\t\r"
  have succeeded := hfailure.2 ⟨free, _, hserver⟩
  obtain ⟨base, hbase, stored⟩ := hstored succeeded
  obtain rfl : Browser.localServer 8080 = base := Except.ok.inj (hserver.symm.trans hbase)
  have hload := congrArg Settings.serverUrl stored.loaded
  exact ⟨env, _, _, "session", rfl, hserver, rfl, succeeded, hload, rfl,
    (stored.connects [] _ _ trivial rfl).2⟩

end Command

end Lineage
