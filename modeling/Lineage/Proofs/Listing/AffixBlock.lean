import Mathlib
import Lineage.Listing
import Lineage.Proofs.Json.Record
import Lineage.Proofs.Text.Split
import Lineage.Proofs.Transfer.Payload

/-! What is listed of an affix, by the body that was brought for it. Main statement: an affix that can be
read has a line that counts its events and then one line for each partition, a blank body has a line that
says so, and nothing is listed of any other body, or where there is none. -/

namespace Lineage

open Json (Document)

namespace Affix

/-- The events of one partition; null tells that there are none. -/
inductive TellsEvents : Document → List String → Prop
  | null : TellsEvents .null []
  | array (events : List String) : TellsEvents (.array (events.map fun hash => .text (some hash))) events

/-- The members of an object tell the events of each partition; of members with one name the last counts. -/
def Tells (d : Document) (partitions : Dict (List String)) : Prop :=
  ∃ (members : List (String × Document)) (entries : List (String × List String)),
    d = .object (members.map fun m => (some m.1, m.2)) ∧
      List.Forall₂ (fun m entry => m.1 = entry.1 ∧ TellsEvents m.2 entry.2) members entries ∧
      partitions = Dict.ofList entries

variable {hash : String} {d : Document} {events : List String} {affix : Affix}

theorem orNull_texts?_eq_some :
    Document.orNull [] Document.texts? (some d) = some events ↔ TellsEvents d events := by
  constructor
  · by_cases hnull : d = .null
    · rw [hnull]
      rintro ⟨⟩
      exact .null
    · intro h
      have htexts : d.texts? = some events := by
        cases d with
        | null => exact absurd rfl hnull
        | _ => exact h
      rw [Document.texts?_eq_some.1 htexts]
      exact .array events
  · rintro (_ | _)
    · rfl
    · exact Document.texts?_eq_some.2 rfl

theorem ofDocument?_eq_some_iff :
    ofDocument? hash d = some affix ↔ affix.hash = hash ∧ Tells d affix.partitions := by
  have hentry (m : String × Document) (entry : String × List String) :
      ((Document.orNull [] Document.texts? (some m.2)).map fun events => (m.1, events)) = some entry ↔
        m.1 = entry.1 ∧ TellsEvents m.2 entry.2 := by
    rw [← orNull_texts?_eq_some, Option.map_eq_some_iff]
    constructor
    · rintro ⟨events, hevents, rfl⟩
      exact ⟨rfl, hevents⟩
    · rintro ⟨hname, hevents⟩
      exact ⟨entry.2, hevents, by rw [hname]⟩
  have hread : ofDocument? hash d = d.members?.bind fun members =>
      (members.mapM fun (m : String × Document) =>
        (Document.orNull [] Document.texts? (some m.2)).map fun events => (m.1, events)).bind
          fun entries => some ⟨hash, Dict.ofList entries⟩ := rfl
  rw [hread]
  constructor
  · intro h
    obtain ⟨members, hmembers, h⟩ := Option.bind_eq_some_iff.1 h
    obtain ⟨entries, hentries, h⟩ := Option.bind_eq_some_iff.1 h
    cases h
    refine ⟨rfl, members, entries, Document.members?_eq_some.1 hmembers, ?_, rfl⟩
    exact (Text.mapM_iff_forall₂.1 hentries).imp fun m entry => (hentry m entry).1
  · rintro ⟨rfl, members, entries, rfl, hentries, hpartitions⟩
    have hmapM := Text.mapM_iff_forall₂.2 (hentries.imp fun m entry => (hentry m entry).2)
    rw [Document.members?_eq_some.2 rfl, Option.bind_some, hmapM, Option.bind_some, ← hpartitions]

end Affix

namespace Listing

/-- The lines that stand for an affix, by the body that was brought for its hash, if one was. -/
inductive AffixBlock (hash : String) : Option String → List String → Prop
  | listed {body : String} {d : Document} {partitions : Dict (List String)} {lines : List String}
      (parsed : Document.parse? body = some d) (tells : Affix.Tells d partitions)
      (lined : List.Forall₂ (fun partition line => line =
        "    " ++ partition.1 ++ ": " ++ ", ".intercalate (partition.2.map Hash.abbreviate))
          partitions.toList lines) :
      AffixBlock hash (some body)
        (("    affix " ++ Hash.abbreviate hash ++ " (" ++
          toString (partitions.toList.flatMap Prod.snd).length ++ " events)") :: lines)
  | empty {body : String} (blank : Text.isAllBlank body = true) :
      AffixBlock hash (some body) ["    (empty affix)"]
  | unreadable {body : String} (filled : Text.isAllBlank body = false)
      (untold : ∀ d, Document.parse? body = some d → ∀ partitions, ¬Affix.Tells d partitions) :
      AffixBlock hash (some body) []
  | failed : AffixBlock hash none []

/-- What is listed of the answer. -/
def affixBlock : Except RequestError (Option Affix) → List String
  | .ok (some affix) =>
    s!"    affix {Hash.abbreviate affix.hash} ({affix.eventCount} events)" :: affixLines affix
  | .ok none => ["    (empty affix)"]
  | .error _ => []

variable {hash body : String} {url : Url}

theorem affixBlock_listed {d : Document} {affix : Affix} (parsed : Document.parse? body = some d)
    (tells : Affix.Tells d affix.partitions) :
    AffixBlock affix.hash (some body) (affixBlock (.ok (some affix))) := by
  have hlines : List.Forall₂ (fun partition line => line =
      "    " ++ partition.1 ++ ": " ++ ", ".intercalate (partition.2.map Hash.abbreviate))
        affix.partitions.toList (affixLines affix) := by
    rw [affixLines, List.forall₂_map_right_iff]
    exact List.forall₂_same.2 fun _ _ => rfl
  have hcount : affix.eventCount = (affix.partitions.toList.flatMap Prod.snd).length := by
    rw [Affix.eventCount, List.flatMap_def]
    rfl
  have hheader : affixBlock (.ok (some affix)) = ("    affix " ++ Hash.abbreviate affix.hash ++ " (" ++
      toString (affix.partitions.toList.flatMap Prod.snd).length ++ " events)") :: affixLines affix := by
    rw [affixBlock, hcount]
    rfl
  rw [hheader]
  exact .listed parsed tells hlines

theorem affixBlock_of_readBody (hash : String) (url : Url) (body : String) :
    AffixBlock hash (some body) (affixBlock (Client.readBody url (Affix.ofDocument? hash) body)) := by
  rw [Client.readBody]
  cases hblank : Text.isAllBlank body with
  | true => exact .empty hblank
  | false =>
      rw [if_neg Bool.false_ne_true]
      cases hparse : Document.parse? body with
      | none =>
          refine .unreadable hblank fun d hd => ?_
          rw [hparse] at hd
          cases hd
      | some d =>
          cases hread : Affix.ofDocument? hash d with
          | none =>
              simp only [hread]
              refine .unreadable hblank fun other hother partitions tells => ?_
              obtain rfl : d = other := Option.some.inj (hparse.symm.trans hother)
              have hsome : Affix.ofDocument? hash d = some ⟨hash, partitions⟩ :=
                Affix.ofDocument?_eq_some_iff.2 ⟨rfl, tells⟩
              rw [hread] at hsome
              cases hsome
          | some affix =>
              simp only [hread]
              obtain ⟨rfl, tells⟩ := Affix.ofDocument?_eq_some_iff.1 hread
              exact affixBlock_listed hparse tells

/-- Whatever came of the request in the end. -/
theorem affixBlock_of_last (hash : String) (url : Url) (last : Outcome) :
    AffixBlock hash last.body?
      (affixBlock ((last.read url).bind (Client.readBody url (Affix.ofDocument? hash)))) := by
  cases hbody : last.body? with
  | some body =>
      rw [Outcome.read_eq_ok_iff.2 hbody]
      exact affixBlock_of_readBody hash url body
  | none =>
      cases hread : last.read url with
      | error error => exact .failed
      | ok body =>
          rw [Outcome.read_eq_ok_iff.1 hread] at hbody
          cases hbody

end Listing

end Lineage
