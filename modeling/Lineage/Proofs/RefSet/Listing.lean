import Mathlib
import Lineage.Proofs.Json.Record
import Lineage.Proofs.Json.Written
import Lineage.Proofs.RefSet.Merging
import Lineage.Proofs.Text.Charset
import Lineage.Proofs.Transfer.Payload

/-! Listings of refs as servers send them. Their order is kept: a name stands where it was first listed,
and has the hash that was listed for it last. Main statement: a listing is read from every text that
writes it, and a member that is no ref makes the whole of it unreadable. -/

namespace Lineage

open Json (Document HexSpells TextSpells mapM_eq_some_iff)
open Json.Token (Layout whiteSpace)

namespace RefSet

variable {refs : List Ref} {set : RefSet} {d : Document}

/-- The refs as a server lists them. -/
def listing (refs : List Ref) : Document :=
  .object (refs.map fun r => (some r.name, .text (some r.hash)))

/-- No document but null and a listing is read, and a listing is read whole. -/
theorem ofDocument?_eq_some_iff :
    ofDocument? d = some set ↔
      (d = .null ∧ set = .empty) ∨ ∃ refs, d = listing refs ∧ set = ofList refs := by
  have hentry (m : String × Document) (r : Ref) :
      (m.2.text?.map fun hash => (⟨m.1, hash⟩ : Ref)) = some r ↔ m = (r.name, .text (some r.hash)) := by
    obtain ⟨name, d⟩ := m
    obtain ⟨other, hash⟩ := r
    simp [Document.text?_eq_some, and_comm]
  by_cases hnull : d = .null
  · subst hnull
    constructor
    · rintro ⟨⟩
      exact .inl ⟨rfl, rfl⟩
    · rintro (⟨-, rfl⟩ | ⟨refs, hrefs, -⟩)
      · rfl
      · cases hrefs
  · have hread : ofDocument? d = d.members?.bind fun members =>
        (members.mapM fun (m : String × Document) => m.2.text?.map fun hash => (⟨m.1, hash⟩ : Ref)).bind
          fun refs => some (ofList refs) := by
      cases d with
      | null => exact absurd rfl hnull
      | _ => rfl
    rw [hread]
    constructor
    · intro h
      obtain ⟨members, hmembers, h⟩ := Option.bind_eq_some_iff.1 h
      obtain ⟨refs, hrefs, h⟩ := Option.bind_eq_some_iff.1 h
      cases h
      refine .inr ⟨refs, ?_, rfl⟩
      rw [Document.members?_eq_some.1 hmembers, (mapM_eq_some_iff hentry).1 hrefs, List.map_map]
      rfl
    · rintro (⟨rfl, -⟩ | ⟨refs, rfl, rfl⟩)
      · exact absurd rfl hnull
      · have hmembers : (listing refs).members? =
            some (refs.map fun r => (r.name, .text (some r.hash))) :=
          Document.members?_eq_some.2 (by rw [listing, List.map_map]; rfl)
        rw [hmembers, Option.bind_some, (mapM_eq_some_iff hentry).2 rfl, Option.bind_some]

theorem ofDocument?_eq_none_of_member {members : List (Option String × Document)}
    {m : Option String × Document} (hm : m ∈ members) (h : ∀ hash, m.2 ≠ .text (some hash)) :
    ofDocument? (.object members) = none := by
  refine Option.eq_none_iff_forall_ne_some.2 fun set hset => ?_
  rcases ofDocument?_eq_some_iff.1 hset with ⟨hnull, -⟩ | ⟨refs, hrefs, -⟩
  · cases hnull
  · rw [listing, Document.object.injEq] at hrefs
    rw [hrefs] at hm
    obtain ⟨r, -, rfl⟩ := List.mem_map.1 hm
    exact h r.hash rfl

end RefSet

/-- A success that brings the text, in UTF-8 or in the encoding that the bytes or the content type tell, as
far as the tables of that encoding are known. -/
structure Reply.Brings (reply : Reply) (text : String) : Prop where
  success : reply.isSuccess = true
  body : ∃ bytes, reply.body = .ok bytes ∧
    ((bytes = Text.Utf8.encode text.toList ∧
        (reply.contentType.map Text.Charset.ofContentType).getD .utf8 = .utf8) ∨
      ((Text.Charset.sniff reply.contentType bytes).1.Covers
          (Text.Charset.sniff reply.contentType bytes).2 ∧
        Text.ofBody reply.contentType bytes = text))

/-- A text in ASCII is brought under every content type that tells of ASCII. -/
theorem Reply.brings_of_ascii {reply : Reply} {text : String} (success : reply.isSuccess = true)
    (body : reply.body = .ok (Text.asciiBytes text))
    (has : ((reply.contentType.map Text.Charset.ofContentType).getD .utf8).HasAscii)
    (ascii : ∀ c ∈ text.toList, c.toNat < 0x80)
    (plain : ∀ b ∈ Text.asciiBytes text, Text.Charset.isPlain b = true) : reply.Brings text := by
  refine ⟨success, _, body, .inr ⟨fun _ => ?_, Text.ofBody_ascii has ascii⟩⟩
  rw [Text.Charset.sniff_ascii _ (Text.lt_of_mem_asciiBytes ascii)]
  exact List.all_eq_true.2 plain

theorem Outcome.body?_of_brings {reply : Reply} {text : String} (h : reply.Brings text)
    (unmarked : text.toList.head? ≠ some Text.orderMark) : (Outcome.answered reply).body? = some text := by
  obtain ⟨bytes, hbytes, hcase⟩ := h.body
  rw [body?, h.success, hbytes]
  rcases hcase with ⟨rfl, charset⟩ | ⟨-, htext⟩
  · exact congrArg some (Text.ofBody_encode charset unmarked)
  · exact congrArg some htext

/-- No blank text and no text that writes a document begins with a byte order mark. -/
theorem head?_ne_orderMark_of_isAllBlank {text : String} (h : Text.isAllBlank text = true) :
    text.toList.head? ≠ some Text.orderMark := by
  intro hmark
  have hblank := List.all_eq_true.1 h _ (List.mem_of_head? hmark)
  cases hblank

theorem head?_ne_orderMark_of_parse? {text : String} {d : Document} (h : Document.parse? text = some d) :
    text.toList.head? ≠ some Text.orderMark := by
  intro hmark
  obtain ⟨rest, hrest⟩ := List.head?_eq_some_iff.1 hmark
  have hscan : Json.Token.scan (Text.orderMark :: rest) = none := by
    rw [Json.Token.scan]
    rfl
  rw [Document.parse?, hrest, hscan] at h
  cases h

namespace Server

/-- In any world, and after whatever was done. -/
theorem listing_read_in_order (w : World) (s : Server) (done : Deeds) :
    ∃ answer log, (s.fetchRefs w.network).run done = (answer, done ++ log) ∧
      ∀ reply text, log.outcomes.getLast? = some (.answered reply) → reply.Brings text →
        (∀ refs, (RefSet.listing refs).WrittenAs text → ∃ set, answer = .ok set ∧ set = .ofList refs ∧
          set.toList.map Ref.name = (refs.map Ref.name).eraseDups ∧
          ∀ name, set.get? name = refs.reverse.find? (·.name == name)) ∧
        (Text.isAllBlank text = true ∨ Document.null.WrittenAs text → answer = .ok .empty) ∧
        ∀ members, (Document.object members).WrittenAs text →
          (∃ m ∈ members, ∀ hash, m.2 ≠ .text (some hash)) → Refused s.base.refs answer := by
  obtain ⟨answer, log, hrun, hends⟩ := fetchRefs_reads w s done
  refine ⟨answer, log, hrun, fun reply text hlast brings => ?_⟩
  have hread (unmarked : text.toList.head? ≠ some Text.orderMark) :
      answer = (Client.readBody s.base.refs RefSet.ofDocument? text).map (·.getD .empty) :=
    hends text ⟨.answered reply, hlast, Outcome.body?_of_brings brings unmarked⟩
  have hwritten {d : Document} {set : RefSet} (h : d.WrittenAs text)
      (hset : RefSet.ofDocument? d = some set) : answer = .ok set := by
    have hparse := Document.parse?_of_writtenAs h
    rw [hread (head?_ne_orderMark_of_parse? hparse),
      Client.readBody_of_some (Document.isAllBlank_of_parse? hparse) hparse hset]
    rfl
  refine ⟨?_, ?_, ?_⟩
  · intro refs h
    have hlisting := RefSet.ofDocument?_eq_some_iff.2 (.inr ⟨refs, rfl, rfl⟩)
    exact ⟨_, hwritten h hlisting, rfl, RefSet.map_name_ofList refs, RefSet.get?_ofList refs⟩
  · rintro (hblank | hnull)
    · rw [hread (head?_ne_orderMark_of_isAllBlank hblank), Client.readBody, if_pos hblank]
      rfl
    · exact hwritten hnull rfl
  · rintro members h ⟨m, hm, hvalue⟩
    have hparse := Document.parse?_of_writtenAs h
    have hnone : ∀ d, Document.parse? text = some d → RefSet.ofDocument? d = none := by
      intro d hd
      obtain rfl : .object members = d := Option.some.inj (hparse.symm.trans hd)
      exact RefSet.ofDocument?_eq_none_of_member hm hvalue
    rw [hread (head?_ne_orderMark_of_parse? hparse)]
    exact (Client.refused_readBody (Document.isAllBlank_of_parse? hparse) hnone).map _

/-- A name that is listed twice, once with an escape. -/
def repeatedListing : String := "\x7b\"\\u0061\":\"x\" ,\"a\":\"z\"\x7d"

theorem writtenAs_repeatedListing :
    (RefSet.listing [⟨"a", "x"⟩, ⟨"a", "z"⟩]).WrittenAs repeatedListing := by
  have plain {c : Char} (quote : c ≠ '"') (backslash : c ≠ '\\') (visible : 0x20 ≤ c.toNat) :
      TextSpells (some (String.ofList [c])) ['"', c, '"'] :=
    @TextSpells.whole _ [c] (by rw [String.toList_ofList]; exact .single (.plain quote backslash visible))
  have code : HexSpells 'a'.toNat ['0', '0', '6', '1'] :=
    @HexSpells.digits '0' '0' '6' '1' 0 0 6 1 (by decide) (by decide) (by decide) (by decide)
  have escape : TextSpells (some "a") ('"' :: ['\\', 'u', '0', '0', '6', '1'] ++ ['"']) :=
    .whole (.single (.unit code))
  have hx : TextSpells (some "x") ['"', 'x', '"'] := plain (by decide) (by decide) (by decide)
  have ha : TextSpells (some "a") ['"', 'a', '"'] := plain (by decide) (by decide) (by decide)
  have hz : TextSpells (some "z") ['"', 'z', '"'] := plain (by decide) (by decide) (by decide)
  have tight : ∀ c ∈ [], c ∈ whiteSpace := nofun
  have wide : ∀ c ∈ [' '], c ∈ whiteSpace := List.forall_mem_singleton.2 List.mem_cons_self
  have last : Layout [.text (some "a"), .colon, .text (some "z"), .endObject] _ :=
    .token tight (.text ha) (.token tight (.mark rfl)
      (.token tight (.text hz) (.token tight (.mark rfl) (.done tight))))
  exact .token tight (.mark rfl) (.token tight (.text escape)
    (.token tight (.mark rfl) (.token tight (.text hx) (.token wide (.mark rfl) last))))

/-- ASCII is read alike in the encoding that the reply tells. -/
theorem repeated_listing_read_in_order :
    ∃ (w : World) (s : Server) (log : Deeds),
      (RefSet.listing [⟨"a", "x"⟩, ⟨"a", "z"⟩]).WrittenAs repeatedListing ∧
      log.outcomes = [.answered ⟨200, some "application/json; charset=Shift_JIS",
        .ok (Text.asciiBytes repeatedListing)⟩] ∧
      (s.fetchRefs w.network).run [] = (.ok (.ofList [⟨"a", "x"⟩, ⟨"a", "z"⟩]), log) := by
  let reply : Reply := ⟨200, some "application/json; charset=Shift_JIS",
    .ok (Text.asciiBytes repeatedListing)⟩
  let w : World := ⟨fun _ _ => .answered reply, fun _ _ => 0, fun _ => "first"⟩
  let base : Url := ⟨.http, [], none, .ipv6 [0, 0, 0, 0, 0, 0, 0, 1], some 80, [[]]⟩
  let s : Server := ⟨⟨"agent", "session", .none⟩, base⟩
  let request : Request := s.client.requestAfter w base.refs []
  have sendable : request.isSendable = true := by decide +kernel
  have final : (w.reply [] request).isRetriable = true → s.client.retry.maxRetries = 0 := fun _ => rfl
  have hlog : ((s.fetchRefs w.network).run []).2 = [.asked request (.answered reply)] := by
    rw [fetchRefs, StateT.run_bind, Client.fetch, StateT.run_bind, Client.fetchText_eq, if_pos sendable,
      StateT.run_bind, sendWithRetry, retryFrom_last _ 0 [] final]
    rfl
  obtain ⟨answer, log, hrun, hread⟩ := listing_read_in_order w s []
  rw [hrun, List.nil_append] at hlog
  subst hlog
  have charset : (reply.contentType.map Text.Charset.ofContentType).getD .utf8 = .multiByte := by
    decide +kernel
  have has : ((reply.contentType.map Text.Charset.ofContentType).getD .utf8).HasAscii := by
    rw [charset]
    trivial
  have ascii : repeatedListing.toList.all (fun c => c.toNat < 0x80) = true := by decide +kernel
  have plain : (Text.asciiBytes repeatedListing).all Text.Charset.isPlain = true := by decide +kernel
  have brings : reply.Brings repeatedListing := Reply.brings_of_ascii rfl rfl has
    (fun c hc => of_decide_eq_true (List.all_eq_true.1 ascii c hc)) (List.all_eq_true.1 plain)
  obtain ⟨set, rfl, rfl, -⟩ := (hread reply repeatedListing rfl brings).1 _ writtenAs_repeatedListing
  exact ⟨w, s, _, writtenAs_repeatedListing, rfl, hrun⟩

end Server

end Lineage
