import Mathlib
import Lineage.Settings
import Lineage.Proofs.Json.Printed
import Lineage.Proofs.Json.Record

/-! Settings as members of an object. Settings are read from the members of five names; each may stand
once, with a value of its kind, and others are passed over. Main statement: the settings that are read
from their own text are the same settings. -/

namespace Lineage.Settings

open Json (Document valuesOf valueOf? mem_valuesOf length_valuesOf)

/-- A member that settings know: its name, its value in settings, and how the value is read. -/
structure Member (α : Type) where
  name : String
  get : Settings → α
  read : Document → Option α

namespace Member

def serverUrl : Member String := ⟨"serverUrl", Settings.serverUrl, Document.text?⟩
def defaultRef : Member (Option String) := ⟨"defaultRef", Settings.defaultRef, readRef?⟩
def maxDepth : Member UInt64 := ⟨"maxDepth", Settings.maxDepth, Document.word?⟩
def timeoutSecs : Member UInt64 := ⟨"timeoutSecs", Settings.timeoutSecs, Document.word?⟩
def maxRetries : Member UInt64 := ⟨"maxRetries", Settings.maxRetries, Document.word?⟩

variable {α : Type} (m : Member α) {members : List (Option String × Document)} {v : α}

/-- The member is there, with this value. -/
def Holds (members : List (Option String × Document)) (v : α) : Prop :=
  ∃ d, (some m.name, d) ∈ members ∧ m.read d = some v

/-- The member stands once at most, with a value of its kind. -/
structure Fits (members : List (Option String × Document)) : Prop where
  once : (members.map Prod.fst).count (some m.name) ≤ 1
  kind : ∀ d, (some m.name, d) ∈ members → ∃ v, m.read d = some v

/-- What is read from the members. -/
def value? (members : List (Option String × Document)) : Option α :=
  (valueOf? members m.name).bind (orDefault (m.get .default) m.read)

theorem value?_of_absent (h : valuesOf m.name members = []) : m.value? members = some (m.get .default) := by
  rw [value?, valueOf?, h]
  rfl

theorem value?_of_single {d : Document} (h : valuesOf m.name members = [d]) :
    m.value? members = m.read d := by
  rw [value?, valueOf?, h]
  rfl

theorem value?_of_repeated {d e : Document} {ds : List Document}
    (h : valuesOf m.name members = d :: e :: ds) : m.value? members = none := by
  rw [value?, valueOf?, h]
  rfl

theorem fits_iff : m.Fits members ↔ (valuesOf m.name members).length ≤ 1 ∧
    ∀ d ∈ valuesOf m.name members, ∃ v, m.read d = some v := by
  simp only [length_valuesOf, mem_valuesOf]
  exact ⟨fun h => ⟨h.once, h.kind⟩, fun h => ⟨h.1, h.2⟩⟩

/-- A value is read exactly if the member stands once at most, with a value of its kind. -/
theorem fits_iff_value? : m.Fits members ↔ ∃ v, m.value? members = some v := by
  rw [fits_iff]
  rcases hvalues : valuesOf m.name members with _ | ⟨d, _ | ⟨e, ds⟩⟩
  · simp [m.value?_of_absent hvalues]
  · simp [m.value?_of_single hvalues]
  · simp [m.value?_of_repeated hvalues]

/-- What a member that fits holds is what is read. -/
theorem value?_of_holds (fits : m.Fits members) (holds : m.Holds members v) :
    m.value? members = some v := by
  obtain ⟨d, hd, hread⟩ := holds
  rw [← mem_valuesOf] at hd
  rw [fits_iff] at fits
  rcases hvalues : valuesOf m.name members with _ | ⟨e, _ | ⟨f, ds⟩⟩
  · rw [hvalues] at hd
    cases hd
  · rw [hvalues, List.mem_singleton] at hd
    rw [m.value?_of_single hvalues, ← hd, hread]
  · rw [hvalues] at fits
    exact absurd fits.1 (by simp)

end Member

/-- What is so for the members other than the default ref. -/
structure Others (P : {α : Type} → Member α → Prop) : Prop where
  serverUrl : P Member.serverUrl
  maxDepth : P Member.maxDepth
  timeoutSecs : P Member.timeoutSecs
  maxRetries : P Member.maxRetries

/-- What is so for all members that settings know. -/
structure All (P : {α : Type} → Member α → Prop) : Prop extends Others P where
  defaultRef : P Member.defaultRef

theorem All.imp {P Q : {α : Type} → Member α → Prop} (h : {α : Type} → (m : Member α) → P m → Q m)
    (all : All P) : All Q where
  serverUrl := h _ all.serverUrl
  maxDepth := h _ all.maxDepth
  timeoutSecs := h _ all.timeoutSecs
  maxRetries := h _ all.maxRetries
  defaultRef := h _ all.defaultRef

/-- Every name is a text, and the members that are known fit. -/
structure WellFormed (members : List (Option String × Document)) : Prop where
  names : ∀ m ∈ members, m.1.isSome
  known : All fun m => m.Fits members

section

variable {members : List (Option String × Document)} {s : Settings}

theorem ofDocument?_object (names : ∀ m ∈ members, m.1.isSome) :
    ofDocument? (.object members) =
      (Member.serverUrl.value? members).bind fun server =>
      (Member.defaultRef.value? members).bind fun ref =>
      (Member.maxDepth.value? members).bind fun depth =>
      (Member.timeoutSecs.value? members).bind fun timeout =>
      (Member.maxRetries.value? members).bind fun retries =>
        some ⟨server, ref, depth, timeout, retries⟩ := by
  have hnames : members.all (·.1.isSome) = true := List.all_eq_true.2 names
  rw [ofDocument?, Json.record?, if_pos hnames]
  change ((memberNames.mapM (valueOf? members)).bind _) = _
  simp only [memberNames, List.mapM_cons, List.mapM_nil, Member.value?, Member.serverUrl,
    Member.defaultRef, Member.maxDepth, Member.timeoutSecs, Member.maxRetries]
  -- a repeated member leaves nothing on either side, whichever of the others are read before it
  cases valueOf? members "serverUrl" with
  | none => rfl
  | some server =>
  cases valueOf? members "defaultRef" with
  | none => simp
  | some ref =>
  cases valueOf? members "maxDepth" with
  | none => simp
  | some depth =>
  cases valueOf? members "timeoutSecs" with
  | none => simp
  | some timeout =>
  cases valueOf? members "maxRetries" with
  | none => simp
  | some retries => rfl

theorem ofDocument?_object_of_unnamed (h : ¬ ∀ m ∈ members, m.1.isSome) :
    ofDocument? (.object members) = none := by
  have hnames : ¬ members.all (·.1.isSome) = true := fun hall => h (List.all_eq_true.1 hall)
  rw [ofDocument?, Json.record?, if_neg hnames]
  rfl

theorem ofDocument?_object_eq_some_iff : ofDocument? (.object members) = some s ↔
    (∀ m ∈ members, m.1.isSome) ∧ All fun m => m.value? members = some (m.get s) := by
  by_cases names : ∀ m ∈ members, m.1.isSome
  · rw [ofDocument?_object names]
    constructor
    · intro h
      obtain ⟨server, hserver, h⟩ := Option.bind_eq_some_iff.1 h
      obtain ⟨ref, href, h⟩ := Option.bind_eq_some_iff.1 h
      obtain ⟨depth, hdepth, h⟩ := Option.bind_eq_some_iff.1 h
      obtain ⟨timeout, htimeout, h⟩ := Option.bind_eq_some_iff.1 h
      obtain ⟨retries, hretries, h⟩ := Option.bind_eq_some_iff.1 h
      cases h
      exact ⟨names, ⟨hserver, hdepth, htimeout, hretries⟩, href⟩
    · rintro ⟨-, ⟨hserver, hdepth, htimeout, hretries⟩, href⟩
      rw [hserver, href, hdepth, htimeout, hretries]
      rfl
  · rw [ofDocument?_object_of_unnamed names]
    exact ⟨nofun, fun h => absurd h.1 names⟩

/-- Where settings are read, a member that is there holds the value in the settings. -/
theorem all_eq_get_of_holds (h : ofDocument? (.object members) = some s) :
    All fun m => ∀ v, m.Holds members v → v = m.get s := by
  refine (ofDocument?_object_eq_some_iff.1 h).2.imp fun m hvalue v holds => ?_
  have hv := m.value?_of_holds (m.fits_iff_value?.2 ⟨_, hvalue⟩) holds
  exact Option.some.inj (hv.symm.trans hvalue)

/-- Settings are read from an object exactly if it is well formed. -/
theorem exists_ofDocument?_iff : (∃ s, ofDocument? (.object members) = some s) ↔ WellFormed members := by
  simp only [ofDocument?_object_eq_some_iff]
  constructor
  · rintro ⟨s, names, all⟩
    exact ⟨names, all.imp fun m hvalue => m.fits_iff_value?.2 ⟨_, hvalue⟩⟩
  · rintro ⟨names, all⟩
    obtain ⟨⟨⟨server, hserver⟩, ⟨depth, hdepth⟩, ⟨timeout, htimeout⟩, ⟨retries, hretries⟩⟩, ⟨ref, href⟩⟩ :=
      all.imp fun m fits => m.fits_iff_value?.1 fits
    exact ⟨⟨server, ref, depth, timeout, retries⟩, names, ⟨hserver, hdepth, htimeout, hretries⟩, href⟩

end

/-- The members of the settings' text. -/
def members (s : Settings) : List (Option String × Document) :=
  [(some "serverUrl", .text (some s.serverUrl))] ++
    s.defaultRef.toList.map (fun name => (some "defaultRef", .text (some name))) ++
    [(some "maxDepth", .number (.ofInt s.maxDepth.toNat)),
      (some "timeoutSecs", .number (.ofInt s.timeoutSecs.toNat)),
      (some "maxRetries", .number (.ofInt s.maxRetries.toNat))]

theorem parse?_render_members (s : Settings) : Document.parse? s.render = some (.object s.members) := by
  refine Json.parse?_pretty ?_
  cases s with
  | mk server ref depth timeout retries => cases ref <;> rfl

theorem isSome_of_mem_members (s : Settings) : ∀ m ∈ s.members, m.1.isSome := by
  cases s with
  | mk server ref depth timeout retries => cases ref <;> simp [members]

theorem word?_document (w : UInt64) : Document.word? (.number (.ofInt w.toNat)) = some w :=
  Json.Numeral.word?_ofInt w

theorem all_value?_members (s : Settings) : All fun m => m.value? s.members = some (m.get s) := by
  cases s with
  | mk server ref depth timeout retries =>
      cases ref <;>
        exact ⟨⟨rfl, word?_document depth, word?_document timeout, word?_document retries⟩, rfl⟩

theorem ofDocument?_members (s : Settings) : ofDocument? (.object s.members) = some s :=
  ofDocument?_object_eq_some_iff.2 ⟨s.isSome_of_mem_members, s.all_value?_members⟩

/-- Settings are read back from their own text. -/
theorem parse?_render (s : Settings) : parse? s.render = some s := by
  rw [parse?, parse?_render_members, Option.bind_some, ofDocument?_members]

end Lineage.Settings
