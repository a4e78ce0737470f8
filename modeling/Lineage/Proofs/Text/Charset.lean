import Mathlib
import Lineage.Proofs.Text.Utf8

/-! What a content type tells of an encoding, and what the encodings have in common. Main statements: the
parameters of a media type are got back from how they are written, so that the one called `charset` decides;
and a text in ASCII is read alike in all encodings that have ASCII. -/

namespace Lineage.Text

namespace MediaType

/-- How a parameter is written: its value is a word, or stands in quotes. -/
inductive Spells : Parameter → List Char → Prop
  | word {name value : List Char} (named : name ≠ []) (filled : value ≠ [])
      (hname : ∀ c ∈ name, isTokenChar c = true) (hvalue : ∀ c ∈ value, isTokenChar c = true) :
      Spells (name, value) (name ++ '=' :: value)
  | quoted {name value : List Char} (named : name ≠ []) (filled : value ≠ [])
      (hname : ∀ c ∈ name, isTokenChar c = true) (hvalue : ∀ c ∈ value, isQuotedChar c = true ∧ c ≠ '"') :
      Spells (name, value) (name ++ '=' :: '"' :: (value ++ ['"']))

/-- All parameters, each behind a semicolon and spaces. -/
inductive SpellsAll : List Parameter → List Char → Prop
  | none : SpellsAll [] []
  | next {p : Parameter} {ps : List Parameter} {gap spelling text : List Char}
      (spaces : ∀ c ∈ gap, c = ' ') (first : Spells p spelling) (rest : SpellsAll ps text) :
      SpellsAll (p :: ps) (';' :: (gap ++ spelling ++ text))

namespace Reader

/-- The text may end here, with these parameters, or go on with another one. -/
structure EndsAs (r : Reader) (parameters : List Parameter) : Prop where
  finish_eq : r.finish = some parameters
  step_eq : r.step ';' = some ⟨parameters, .gap⟩

variable {done : List Parameter} {name value gap spelling text : List Char} {r : Reader}

/-- Characters that leave the reader where it stands are kept there. -/
theorem foldlM_collect (done : List Parameter) (place : List Char → Place) (cs : List Char)
    (h : ∀ c ∈ cs, ∀ read, step ⟨done, place read⟩ c = some ⟨done, place (c :: read)⟩)
    (read : List Char) :
    cs.foldlM step ⟨done, place read⟩ = some ⟨done, place (cs.reverse ++ read)⟩ := by
  induction cs generalizing read with
  | nil => rfl
  | cons c cs ih =>
      rw [List.forall_mem_cons] at h
      rw [List.foldlM_cons, h.1, Option.bind_eq_bind, Option.bind_some, ih h.2, List.reverse_cons,
        List.append_assoc, List.singleton_append]

theorem foldlM_gap (spaces : ∀ c ∈ gap, c = ' ') : gap.foldlM step ⟨done, .gap⟩ = some ⟨done, .gap⟩ := by
  refine foldlM_collect done (fun _ => .gap) gap (fun c hc read => ?_) []
  rw [spaces c hc]
  rfl

/-- The name of a parameter, and the sign behind it. -/
theorem foldlM_name (named : name ≠ []) (hname : ∀ c ∈ name, isTokenChar c = true) :
    (name ++ ['=']).foldlM step ⟨done, .gap⟩ = some ⟨done, .value name.reverse []⟩ := by
  obtain ⟨c, rest, rfl⟩ := List.exists_cons_of_ne_nil named
  obtain ⟨hc, hrest⟩ := List.forall_mem_cons.1 hname
  have hspace : (c == ' ') = false := by
    rw [beq_eq_false_iff_ne]
    rintro rfl
    cases hc
  have hfirst : step ⟨done, .gap⟩ c = some ⟨done, .name [c]⟩ := by
    simp only [step, hspace, hc, enter, if_true, Bool.false_eq_true, if_false]
  have hmore : rest.foldlM step ⟨done, .name [c]⟩ = some ⟨done, .name (rest.reverse ++ [c])⟩ :=
    foldlM_collect done .name rest (fun d hd _ => by simp only [step, hrest d hd, enter, if_true]) [c]
  simp only [List.cons_append, List.foldlM_cons, List.foldlM_append, hfirst, hmore, Option.bind_eq_bind,
    Option.bind_some, List.reverse_cons]
  rfl

/-- The value, up to where it ends. -/
theorem foldlM_word (hvalue : ∀ c ∈ value, isTokenChar c = true) :
    value.foldlM step ⟨done, .value name []⟩ = some ⟨done, .value name value.reverse⟩ := by
  rw [← List.append_nil value.reverse]
  refine foldlM_collect done (.value name) value (fun c hc read => ?_) []
  have hquote : (c == '"') = false := by
    rw [beq_eq_false_iff_ne]
    rintro rfl
    cases hvalue _ hc
  simp only [step, hquote, hvalue c hc, enter, Bool.false_and, Bool.false_eq_true, if_false, if_true]

theorem foldlM_quoted (hvalue : ∀ c ∈ value, isQuotedChar c = true ∧ c ≠ '"') :
    value.foldlM step ⟨done, .quoted name []⟩ = some ⟨done, .quoted name value.reverse⟩ := by
  rw [← List.append_nil value.reverse]
  refine foldlM_collect done (.quoted name) value (fun c hc read => ?_) []
  have hquote : (c == '"') = false := beq_eq_false_iff_ne.2 (hvalue c hc).2
  simp only [step, hquote, (hvalue c hc).1, enter, Bool.false_and, Bool.false_eq_true, if_false, if_true]

theorem foldlM_spells {p : Parameter} (h : Spells p spelling) (done : List Parameter) :
    ∃ r, spelling.foldlM step ⟨done, .gap⟩ = some r ∧ r.EndsAs (done ++ [p]) := by
  cases h with
  | @word name value named filled hname hvalue =>
      refine ⟨⟨done, .value name.reverse value.reverse⟩, ?_, ?_, ?_⟩
      · rw [List.append_cons, List.foldlM_append, foldlM_name named hname]
        exact foldlM_word hvalue
      · simp [finish, add]
      · have hsemicolon : isTokenChar ';' = false := rfl
        simp [step, add, filled, hsemicolon]
  | @quoted name value named filled hname hvalue =>
      have hopen : step ⟨done, .value name.reverse []⟩ '"' = some ⟨done, .quoted name.reverse []⟩ := rfl
      have hclose : step ⟨done, .quoted name.reverse value.reverse⟩ '"' =
          some ⟨done ++ [(name, value)], .closed⟩ := by
        simp [step, add, filled]
      refine ⟨⟨done ++ [(name, value)], .closed⟩, ?_, rfl, rfl⟩
      rw [List.append_cons, List.foldlM_append, foldlM_name named hname]
      simp only [Option.bind_eq_bind, Option.bind_some, List.foldlM_cons, List.foldlM_append, hopen,
        foldlM_quoted hvalue, hclose, List.foldlM_nil, Option.pure_def]

theorem foldlM_spellsAll {ps : List Parameter} (h : SpellsAll ps text) (ends : r.EndsAs done) :
    ∃ last, text.foldlM step r = some last ∧ last.finish = some (done ++ ps) := by
  induction h generalizing r done with
  | none => exact ⟨r, rfl, by rw [List.append_nil]; exact ends.finish_eq⟩
  | @next p ps gap spelling text spaces first _ ih =>
      obtain ⟨read, hread, readEnds⟩ := foldlM_spells first done
      obtain ⟨last, hlast, hfinish⟩ := ih readEnds
      refine ⟨last, ?_, by rw [hfinish, List.append_assoc, List.singleton_append]⟩
      simp only [List.foldlM_cons, List.foldlM_append, ends.step_eq, foldlM_gap spaces, hread,
        Option.bind_eq_bind, Option.bind_some, hlast]

end Reader

variable {word rest kind sub text cs : List Char} {ps : List Parameter}

/-- A word ends where something else stands. -/
theorem cut_word (hword : ∀ c ∈ word, isTokenChar c = true)
    (stops : ∀ c ∈ rest.head?, isTokenChar c = false) :
    (word ++ rest).takeWhile isTokenChar = word ∧ (word ++ rest).dropWhile isTokenChar = rest := by
  rw [List.takeWhile_append_of_pos hword, List.dropWhile_append_of_pos hword]
  cases rest with
  | nil => exact ⟨List.append_nil word, rfl⟩
  | cons c rest =>
      have hc : isTokenChar c = false := stops c rfl
      simp [hc]

theorem SpellsAll.stops (h : SpellsAll ps text) : ∀ c ∈ text.head?, isTokenChar c = false := by
  cases h with
  | none => nofun
  | next =>
      rintro c ⟨⟩
      rfl

/-- Type and subtype are words. -/
theorem parameters?_of_spellsAll (kinded : kind ≠ []) (hkind : ∀ c ∈ kind, isTokenChar c = true)
    (subbed : sub ≠ []) (hsub : ∀ c ∈ sub, isTokenChar c = true) (h : SpellsAll ps text) :
    parameters? (kind ++ '/' :: (sub ++ text)) = some ps := by
  have slash : ∀ c ∈ ('/' :: (sub ++ text)).head?, isTokenChar c = false := by
    rintro c ⟨⟩
    rfl
  obtain ⟨kindTaken, kindDropped⟩ := cut_word hkind slash
  obtain ⟨subTaken, subDropped⟩ := cut_word hsub h.stops
  obtain ⟨k, ks, rfl⟩ := List.exists_cons_of_ne_nil kinded
  obtain ⟨b, bs, rfl⟩ := List.exists_cons_of_ne_nil subbed
  simp only [parameters?, kindTaken, kindDropped, subTaken, subDropped]
  cases h with
  | none => rfl
  | @next p ps gap spelling text spaces first rest =>
      have closed : Reader.EndsAs ⟨[], .closed⟩ [] := ⟨rfl, rfl⟩
      obtain ⟨last, hlast, hfinish⟩ := Reader.foldlM_spellsAll (.next spaces first rest) closed
      have hread : (gap ++ spelling ++ text).foldlM Reader.step .start = some last := hlast
      simp only [hread, Option.bind_eq_bind, Option.bind_some, hfinish, List.nil_append]

theorem parameters?_of_not_mem (h : '/' ∉ cs) : parameters? cs = none := by
  rw [parameters?]
  split
  · rename_i hdrop
    exact absurd ((List.dropWhile_sublist isTokenChar).mem (hdrop ▸ List.mem_cons_self)) h
  · rfl

end MediaType

namespace Charset

open MediaType

theorem toLower_eq_iff {c d : Char} (hd : d.toNat < 0x41) : c.toLower = d ↔ c = d := by
  rw [Char.toLower]
  split
  · rename_i h
    have hcapital : 0x41 ≤ c.toNat ∧ c.toNat ≤ 0x5A := by simpa [UInt32.le_iff_toNat_le] using h
    constructor
    · rintro rfl
      simp only [Char.toNat, UInt32.toNat_add] at hd hcapital
      have : ('a'.val - 'A'.val).toNat = 32 := rfl
      omega
    · rintro rfl
      omega
  · rfl

/-- Labels that differ in case only mean the same encoding. -/
theorem ofLabel_congr {label other : List Char} (h : label.map Char.toLower = other.map Char.toLower) :
    ofLabel label = ofLabel other := by
  let isAround (c : Char) : Bool := c == ' ' || c == '\t'
  have hlower : isAround ∘ Char.toLower = isAround := by
    funext c
    have around (d : Char) (hd : d.toNat < 0x41) : (c.toLower == d) = (c == d) :=
      decide_eq_decide.2 (toLower_eq_iff hd)
    exact congrArg₂ or (around ' ' (by decide)) (around '\t' (by decide))
  have htrimmed (cs : List Char) :
      ((cs.dropWhile isAround).reverse.dropWhile isAround).reverse.map Char.toLower =
        (((cs.map Char.toLower).dropWhile isAround).reverse.dropWhile isAround).reverse := by
    rw [List.dropWhile_map, hlower, ← List.map_reverse, List.dropWhile_map, hlower, ← List.map_reverse]
  have hname : ((label.dropWhile isAround).reverse.dropWhile isAround).reverse.map Char.toLower =
      ((other.dropWhile isAround).reverse.dropWhile isAround).reverse.map Char.toLower := by
    rw [htrimmed, htrimmed, h]
  exact congrArg (fun name => ((labels.find? fun entry => entry.2.contains (String.ofList name)).map
    Prod.fst).getD .utf8) hname

/-- What a content type tells of the encoding, as it is written. -/
theorem ofContentType_of_spellsAll {kind sub text : List Char} {ps : List Parameter}
    (kinded : kind ≠ []) (hkind : ∀ c ∈ kind, isTokenChar c = true) (subbed : sub ≠ [])
    (hsub : ∀ c ∈ sub, isTokenChar c = true) (h : SpellsAll ps text)
    (plain : (kind ++ '/' :: (sub ++ text)).all isHeaderChar = true) :
    ofContentType (String.ofList (kind ++ '/' :: (sub ++ text))) =
      ((ps.find? fun p => p.1.map Char.toLower == "charset".toList).map
        fun p => ofLabel p.2).getD .utf8 := by
  rw [ofContentType, String.toList_ofList, if_pos plain, parameter?,
    parameters?_of_spellsAll kinded hkind subbed hsub h, Option.bind_eq_bind, Option.bind_some]
  cases ps.find? fun p => p.1.map Char.toLower == "charset".toList <;> rfl

example : ofContentType "text/plain; Charset=\"KOI8-R\"" = .singleByte .koi8r := by decide +kernel

/-- A text that is no media type tells nothing. -/
theorem ofContentType_of_not_mem {contentType : String} (h : '/' ∉ contentType.toList) :
    ofContentType contentType = .utf8 := by
  have hnone : parameter? "charset".toList contentType.toList = none := by
    rw [parameter?, parameters?_of_not_mem h]
    rfl
  simp only [ofContentType, hnone, ite_self]

/-- The encodings that have ASCII for the bytes below 0x80. -/
def HasAscii : Charset → Prop
  | .utf16 _ | .withheld => False
  | _ => True

section

variable {charset : Charset} {bytes : List UInt8}

theorem decodeLossy_ascii (ascii : ∀ b ∈ bytes, b.toNat < 0x80) :
    Utf8.decodeLossy bytes = bytes.map fun b => Char.ofNat b.toNat := by
  rw [Utf8.decodeLossy]
  induction bytes with
  | nil => rfl
  | cons b bytes ih =>
      obtain ⟨hb, hbytes⟩ := List.forall_mem_cons.1 ascii
      have hlead : Utf8.lead b.toNat = ([Char.ofNat b.toNat], .none) := if_pos hb
      have hfirst := Utf8.decodeFrom_lead hlead b.toNat_lt bytes
      rw [UInt8.ofNat_toNat] at hfirst
      rw [hfirst, ih hbytes]
      rfl

theorem decode_ascii (has : charset.HasAscii) (ascii : ∀ b ∈ bytes, b.toNat < 0x80) :
    charset.decode bytes = bytes.map fun b => Char.ofNat b.toNat := by
  cases charset with
  | utf8 => exact decodeLossy_ascii ascii
  | utf16 bigEndian => exact has.elim
  | withheld => exact has.elim
  | singleByte table => exact List.map_congr_left fun b hb => if_pos (ascii b hb)
  | userDefined => exact List.map_congr_left fun b hb => congrArg Char.ofNat (if_pos (ascii b hb))
  | multiByte => exact List.map_congr_left fun b hb => if_pos (ascii b hb)

/-- Byte order marks are not ASCII. -/
theorem sniff_ascii (contentType : Option String) (ascii : ∀ b ∈ bytes, b.toNat < 0x80) :
    sniff contentType bytes = ((contentType.map ofContentType).getD .utf8, bytes) := by
  have apart (b : UInt8) (rest : List UInt8) (hb : ¬b.toNat < 0x80) : bytes ≠ b :: rest := by
    rintro rfl
    exact hb (ascii b List.mem_cons_self)
  rw [sniff]
  · exact fun rest => apart 0xEF _ (by decide)
  · exact fun rest => apart 0xFF _ (by decide)
  · exact fun rest => apart 0xFE _ (by decide)

end

end Charset

/-- The bytes of a text in ASCII. -/
def asciiBytes (text : String) : List UInt8 := text.toList.map fun c => UInt8.ofNat c.toNat

section

variable {contentType : Option String} {text : String}

theorem toNat_asciiByte {c : Char} (h : c.toNat < 0x80) : (UInt8.ofNat c.toNat).toNat = c.toNat :=
  UInt8.toNat_ofNat_of_lt' (Nat.lt_trans h (by decide))

theorem lt_of_mem_asciiBytes (ascii : ∀ c ∈ text.toList, c.toNat < 0x80) :
    ∀ b ∈ asciiBytes text, b.toNat < 0x80 := by
  refine List.forall_mem_map.2 fun c hc => ?_
  rw [toNat_asciiByte (ascii c hc)]
  exact ascii c hc

/-- A text in ASCII is read from its bytes under every content type that tells of ASCII. -/
theorem ofBody_ascii (has : ((contentType.map Charset.ofContentType).getD .utf8).HasAscii)
    (ascii : ∀ c ∈ text.toList, c.toNat < 0x80) : ofBody contentType (asciiBytes text) = text := by
  have hbytes := lt_of_mem_asciiBytes ascii
  have hchars : (asciiBytes text).map (fun b => Char.ofNat b.toNat) = text.toList := by
    rw [asciiBytes, List.map_map]
    refine (List.map_congr_left fun c hc => ?_).trans (List.map_id _)
    rw [Function.comp_apply, toNat_asciiByte (ascii c hc), Char.ofNat_toNat]
    rfl
  rw [ofBody, Charset.sniff_ascii contentType hbytes]
  change String.ofList (Charset.decode _ (asciiBytes text)) = text
  rw [Charset.decode_ascii has hbytes, hchars, String.ofList_toList]

end

end Lineage.Text
