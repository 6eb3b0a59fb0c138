import Ndef.Proofs.CommandDecode
import Ndef.Proofs.PosterRoundTrip
import Ndef.Proofs.Recased
import Ndef.Proofs.ReportLine

/-!
# Reading back what a command writes

A run that encodes prints the message of one record that stands alone.  Decoding the text that
is printed prints the line of that record, whatever the display language
(`CommandLine.readsBack_of_answer`), and the line says what the command was given
(`CommandLine.readsBack_encoded`).
-/

namespace Ndef

/-! ### Runs that encode -/

namespace Report

open JsonText

/-- The members of the line of a record that stands alone and has no id. -/
def aloneMembers (tnf type : String) (payload : Bytes) (kind : String)
    (more : List (List Char)) : List (List Char) :=
  [member "tnf" (string tnf),
    member "first" (bool true),
    member "last" (bool true),
    member "type" (string type),
    member "payload" (string (Hex.encode payload)),
    member "kind" (string kind)]
  ++ more

theorem line_ofFrame_ofParts {language : Option Language} {tnf : Tnf} {type payload : Bytes}
    {c : Content} (hc : Content.ofFrame language (.ofParts tnf type none payload) = c)
    {name kind : String} (hname : Utf8.lossy type = name) {more : List (List Char)}
    (hmore : contentMembers c = kindMember kind :: more) :
  line (.ofFrame language (.ofParts tnf type none payload))
    = object (aloneMembers tnf.name name payload kind more)
  := by
  rw [Record.ofFrame, hc, line, Record.content, hmore, ← hname]
  rfl

/-- The members for a poster that is drafted without media type, size and icon. -/
theorem contentMembers_poster (d : PosterDraft) (hmediaType : d.mediaType = none)
    (hsize : d.size = none) (hicon : d.icon = none) :
  contentMembers (.smartPoster d.poster)
    = [kindMember "smart_poster",
      member "uri" (string d.uri),
      member "title" (orNull string d.title),
      member "lang" (orNull (fun _ => string d.titleLanguage) d.title),
      member "media_type" "null".toList,
      member "size" "null".toList,
      member "action" (string (Action.name d.action)),
      member "icon" "null".toList]
  := by
  rw [contentMembers]
  simp only [PosterDraft.poster, hmediaType, hsize, hicon]
  cases d.title <;> rfl

end Report

theorem Options.encodeBuilt_eq_ok_iff {o : Options} {built : Except BuildError Record}
    {text : String} :
  o.encodeBuilt built = .ok text ↔ ∃ r, built = .ok r ∧ o.encode r = .ok text
  := by
  rw [encodeBuilt, Except.bind_eq_ok_iff]
  cases built with
  | error e => simp [Except.mapError]
  | ok r => simp [Except.mapError]

/-! ### The words of encoding commands -/

/-- The names of an encoding. -/
def TextEncoding.names : TextEncoding → List String
  | utf8 => ["utf8"]
  | utf16 .bigEndian => ["utf16", "utf16be"]
  | utf16 .littleEndian => ["utf16le"]

/-- The case of letters and leaving out hyphens do not get in each other's way. -/
theorem filter_toLower (word : String) :
  String.ofList (word.toLower.toList.filter (· ≠ '-'))
    = (String.ofList (word.toList.filter (· ≠ '-'))).toLower
  := by
  have hyphen (c : Char) : c.toLower ≠ '-' ↔ c ≠ '-' := by
    have hnat : '-'.toNat = 0x2D := rfl
    rw [ne_eq, ne_eq, ← Char.toNat_inj, ← Char.toNat_inj, toNat_toLower, hnat]
    split <;> omega
  apply String.toList_inj.mp
  simp only [toList_toLower, String.toList_ofList, List.filter_map, Function.comp_def, hyphen]

/-- A word names an encoding exactly if it is a name of it up to case, once the hyphens are left
out. -/
theorem TextEncoding.ofName?_eq_some_iff {word : String} {encoding : TextEncoding} :
  ofName? word = some encoding
    ↔ ∃ name ∈ encoding.names, Recased name (String.ofList (word.toList.filter (· ≠ '-')))
  := by
  have hlower : ∀ name ∈ encoding.names, name.toLower = name := by
    rcases encoding with _ | _ | _ <;> decide +kernel
  have hnames : ofName? word = some encoding
      ↔ String.ofList (word.toLower.toList.filter (· ≠ '-')) ∈ encoding.names := by
    rw [ofName?]
    generalize String.ofList (word.toLower.toList.filter (· ≠ '-')) = letters
    rcases encoding with _ | _ | _ <;> grind [names]
  rw [hnames, filter_toLower]
  constructor
  · intro h
    refine ⟨_, h, ?_⟩
    rw [recased_iff, hlower _ h]
  · rintro ⟨name, hname, h⟩
    rw [recased_iff, hlower name hname] at h
    rwa [← h]

theorem encodingOfWord_eq_ok_iff {word : Option String} {encoding : TextEncoding} :
  encodingOfWord word = .ok encoding
    ↔ word.elim (some .utf8) TextEncoding.ofName? = some encoding
  := by
  cases word with
  | none => simp [encodingOfWord]
  | some word =>
    rw [encodingOfWord, Option.elim_some]
    cases TextEncoding.ofName? word <;> simp

/-- An action is reported by the word that asks for it. -/
theorem name_of_actionOfWord {word : Option String} {action : Option Action}
    (h : actionOfWord word = .ok action) :
  Action.name action = word.getD "default"
  := by
  cases word with
  | none =>
    cases h
    rfl
  | some word =>
    rw [actionOfWord] at h
    split_ifs at h with hopen hsave hedit
    · cases h
      exact hopen.symm
    · cases h
      exact hsave.symm
    · cases h
      exact hedit.symm

namespace Request

variable {request : Request} {more : List String}

theorem ofWords_encodeText {content : String}
    (h : ofWords ("encode-text" :: content :: more) = .ok request) :
  ∃ encoding, encodingOfWord more[1]? = .ok encoding
    ∧ request = .encodeText content more[0]? encoding
  := by
  change (if more.length ≤ 2 then (encodingOfWord more[1]?).map (encodeText content more[0]? ·)
    else .error _) = _ at h
  split at h
  · obtain ⟨encoding, hencoding, rfl⟩ := Except.map_eq_ok_iff.mp h
    exact ⟨encoding, hencoding, rfl⟩
  · cases h

theorem ofWords_encodePoster {uri : String}
    (h : ofWords ("encode-sp" :: uri :: more) = .ok request) :
  ∃ action, actionOfWord more[1]? = .ok action
    ∧ request = .encodePoster uri more[0]? action
  := by
  change (if more.length ≤ 2 then (actionOfWord more[1]?).map (encodePoster uri more[0]? ·)
    else .error _) = _ at h
  split at h
  · obtain ⟨action, haction, rfl⟩ := Except.map_eq_ok_iff.mp h
    exact ⟨action, haction, rfl⟩
  · cases h

end Request

namespace CommandLine

open JsonText Report

/-- Decoding what the run `l` prints, with white space between the digits, in the same container
and with any language that can be named, prints one line, which is the object with the given
members. -/
def ReadsBack (l : CommandLine) (members : List (List Char)) : Prop :=
  ∀ input text, l.run input = .ok text →
    ∀ (m : CommandLine) (input' : Bytes) (spaced : String),
      m.options.container = l.options.container → m.Named →
      Hex.Spaced text.toList spaced.toList → m.Decodes input' spaced →
      Outcome.of (m.run input')
          = { status := 0, output := String.ofList (object members) ++ "\n", errors := "" }
        ∧ Printable (object members)

variable {l : CommandLine} {members : List (List Char)}

/-- What a run prints is read back if it is the message of a record of parts that fit, and the
line of the record has the members, whatever the display language. -/
theorem readsBack_of_answer (hplain : l.Plain)
    (h : ∀ request input text, Request.ofWords l.words = .ok request →
      request.answer l.options input = .ok text →
      ∃ tnf type payload c, (Frame.ofParts tnf type none payload).Fits
        ∧ l.options.encode (.framed (.ofParts tnf type none payload) c) = .ok text
        ∧ ∀ language, line (.ofFrame language (.ofParts tnf type none payload)) = object members) :
  l.ReadsBack members
  := by
  intro input text hrun m input' spaced hcontainer hnamed hspaced hdecodes
  obtain ⟨request, hrequest, hanswer⟩ := exists_request_of_run hplain hrun
  obtain ⟨tnf, type, payload, c, hfits, hencode, hline⟩ := h request input text hrequest hanswer
  obtain ⟨b, rfl, hmessage⟩ := Options.decode?_of_encode hcontainer hfits hencode
  have hm := run_of_decodes hnamed hdecodes hspaced hmessage
  rw [lines_single, hline] at hm
  constructor
  · rw [hm, Outcome.of, if_neg]
    intro hempty
    have hlist := congrArg String.toList hempty
    rw [String.toList_ofList] at hlist
    cases hlist
  · rw [← hline none]
    apply printable_line

/-- The record of a URI is read back. -/
theorem readsBack_uri (hplain : l.Plain) {uri : String} (hwords : l.words = ["encode-uri", uri]) :
  l.ReadsBack (aloneMembers "well_known" "U" (Uri.encode uri) "uri" [member "uri" (string uri)])
  := by
  apply readsBack_of_answer hplain
  intro request input text hrequest hanswer
  rw [hwords] at hrequest
  cases hrequest
  obtain ⟨r, hbuild, hencode⟩ := Options.encodeBuilt_eq_ok_iff.mp hanswer
  obtain ⟨hfits, rfl⟩ := PosterDraft.buildUri_eq_ok_iff.mp hbuild
  refine ⟨_, _, _, _, hfits, hencode, ?_⟩
  intro language
  have hcontent : Content.ofFrame language
      (.ofParts .wellKnown WellKnown.uri.type none (Uri.encode uri)) = .uri uri :=
    Content.ofFrame_eq_uri_iff.mpr ⟨rfl, rfl, Uri.decode_encode uri⟩
  exact line_ofFrame_ofParts hcontent (by decide +kernel) rfl

/-- The record of a text is read back, unless it is big-endian. -/
theorem readsBack_text (hplain : l.Plain) {content : String} {more : List String}
    (hwords : l.words = "encode-text" :: content :: more) {encoding : TextEncoding}
    (hencoding : more[1]?.elim (some .utf8) TextEncoding.ofName? = some encoding)
    (horder : encoding ≠ .utf16 .bigEndian) :
  let t : Text := {
    language := more[0]?.getD (Language.defaultTag l.options.language)
    content := content
    encoding := encoding }
  l.ReadsBack (aloneMembers "well_known" "T" t.payload "text"
    [member "lang" (string t.language), member "text" (string content),
      member "encoding" (string encoding.name)])
  := by
  intro t
  apply readsBack_of_answer hplain
  intro request input text hrequest hanswer
  rw [hwords] at hrequest
  obtain ⟨e, he, rfl⟩ := Request.ofWords_encodeText hrequest
  obtain rfl : encoding = e := by
    rw [encodingOfWord_eq_ok_iff, hencoding] at he
    apply Option.some.inj he
  obtain ⟨r, hbuild, hencode⟩ := Options.encodeBuilt_eq_ok_iff.mp hanswer
  change Record.buildText t = .ok r at hbuild
  obtain ⟨hlanguage, hfits, rfl, -⟩ := Record.buildText_eq_ok_iff.mp hbuild
  refine ⟨_, _, _, _, hfits, hencode, ?_⟩
  intro language
  have hmarked : ¬ t.LooksMarked := fun h => horder h.1
  have hcontent : Content.ofFrame language
      (.ofParts .wellKnown WellKnown.text.type none t.payload) = .text t :=
    Content.ofFrame_eq_text_iff.mpr ⟨rfl, rfl, (Text.decode_payload_iff hlanguage).mpr hmarked⟩
  exact line_ofFrame_ofParts hcontent (by decide +kernel) rfl

/-- The record of a smart poster is read back. -/
theorem readsBack_poster (hplain : l.Plain) {uri : String} {more : List String}
    (hwords : l.words = "encode-sp" :: uri :: more) :
  ∃ payload, l.ReadsBack (aloneMembers "well_known" "Sp" payload "smart_poster"
    [member "uri" (string uri),
      member "title" (orNull string more[0]?),
      member "lang" (orNull (fun _ => string (Language.defaultTag l.options.language)) more[0]?),
      member "media_type" "null".toList,
      member "size" "null".toList,
      member "action" (string (more[1]?.getD "default")),
      member "icon" "null".toList])
  := by
  by_cases haction : ∃ action, actionOfWord more[1]? = .ok action
  · obtain ⟨action, haction⟩ := haction
    let d : PosterDraft := {
      uri := uri
      title := more[0]?
      current := l.options.language
      action := action }
    use d.payload
    apply readsBack_of_answer hplain
    intro request input text hrequest hanswer
    rw [hwords] at hrequest
    obtain ⟨a, ha, rfl⟩ := Request.ofWords_encodePoster hrequest
    obtain rfl : action = a := by
      rw [haction] at ha
      injection ha
    obtain ⟨r, hbuild, hencode⟩ := Options.encodeBuilt_eq_ok_iff.mp hanswer
    change Record.buildSmartPoster d = .ok r at hbuild
    obtain ⟨htitle, -, -, hpayload, -, rfl⟩ := Record.buildSmartPoster_eq_ok_iff.mp hbuild
    have hvalid : d.Valid := {
      language := fun title h => Nat.le_of_lt_succ (htitle title h)
      mediaType := by rintro name ⟨⟩
      icon := by rintro i ⟨⟩
      payload := hpayload }
    have hfits : (Frame.ofParts .wellKnown WellKnown.smartPoster.type none d.payload).Fits :=
      Frame.fits_ofParts_iff.mpr ⟨by decide, by decide, hpayload⟩
    refine ⟨_, _, _, _, hfits, hencode, ?_⟩
    intro language
    have hcontent : Content.ofFrame language
        (.ofParts .wellKnown WellKnown.smartPoster.type none d.payload) = .smartPoster d.poster :=
      Content.ofFrame_eq_smartPoster_iff.mpr ⟨rfl, rfl, hvalid.decode?_payload language⟩
    apply line_ofFrame_ofParts hcontent (by decide +kernel)
    rw [← name_of_actionOfWord haction, Language.defaultTag_eq]
    exact contentMembers_poster d rfl rfl rfl
  · -- An unknown action is a misuse, so nothing is printed that could be read back.
    use []
    apply readsBack_of_answer hplain
    intro request input text hrequest hanswer
    rw [hwords] at hrequest
    obtain ⟨a, ha, rfl⟩ := Request.ofWords_encodePoster hrequest
    exact absurd ⟨a, ha⟩ haction

/-- The record of data of a media type is read back. -/
theorem readsBack_media (hplain : l.Plain) {mediaType digits : String}
    (hwords : l.words = ["encode-mime", mediaType, digits]) {payload : Bytes}
    (hpayload : Hex.decode digits = .ok payload) :
  l.ReadsBack (aloneMembers "media_type" mediaType payload "generic" [])
  := by
  apply readsBack_of_answer hplain
  intro request input text hrequest hanswer
  rw [hwords] at hrequest
  cases hrequest
  change (((Hex.decode digits).mapError CommandError.hex) >>= _) = _ at hanswer
  rw [hpayload] at hanswer
  obtain ⟨r, hbuild, hencode⟩ := Options.encodeBuilt_eq_ok_iff.mp hanswer
  obtain ⟨htype, hfits, rfl⟩ := Record.buildMedia_eq_ok_iff.mp hbuild
  refine ⟨_, _, _, _, hfits, hencode, ?_⟩
  intro language
  have hcontent : Content.ofFrame language
      (.ofParts .mediaType (Utf8.encode mediaType) none payload) = .generic := by
    apply Content.ofFrame_of_tnf_ne
    simp [Frame.ofParts]
  exact line_ofFrame_ofParts hcontent
    (Utf8.lossy_encode_of_ascii (MediaType.ascii_of_isType htype)) rfl

/-- Decoding reads back what encoding prints: a URI, a text unless it is big-endian, a smart
poster, and data of a media type.  The text that is decoded may have white space between the
digits and may come from the standard input; the container has to be the same.  The languages
may be any that can be named, and one that cannot is a misuse. -/
theorem readsBack_encoded {l : CommandLine} (hplain : l.Plain) :
  (∀ uri, l.words = ["encode-uri", uri] →
    l.ReadsBack (aloneMembers "well_known" "U" (Uri.encode uri) "uri"
      [member "uri" (string uri)]))
  ∧ (∀ content more encoding, l.words = "encode-text" :: content :: more →
    more[1]?.elim (some .utf8) TextEncoding.ofName? = some encoding →
    encoding ≠ .utf16 .bigEndian →
    let t : Text := {
      language := more[0]?.getD (Language.defaultTag l.options.language)
      content := content
      encoding := encoding }
    l.ReadsBack (aloneMembers "well_known" "T" t.payload "text"
      [member "lang" (string t.language),
        member "text" (string content),
        member "encoding" (string encoding.name)]))
  ∧ (∀ uri more, l.words = "encode-sp" :: uri :: more →
    ∃ payload, l.ReadsBack (aloneMembers "well_known" "Sp" payload "smart_poster"
      [member "uri" (string uri),
        member "title" (orNull string more[0]?),
        member "lang" (orNull (fun _ => string (Language.defaultTag l.options.language)) more[0]?),
        member "media_type" "null".toList,
        member "size" "null".toList,
        member "action" (string (more[1]?.getD "default")),
        member "icon" "null".toList]))
  ∧ (∀ mediaType digits payload, l.words = ["encode-mime", mediaType, digits] →
    Hex.decode digits = .ok payload →
    l.ReadsBack (aloneMembers "media_type" mediaType payload "generic" []))
  ∧ ∀ (m : CommandLine) input, m.Plain → ¬ m.Named → m.run input = .error (.usage .badLanguage)
  := by
  refine ⟨?_, ?_, ?_, ?_, fun m input => run_eq_badLanguage⟩
  · intro uri hwords
    apply readsBack_uri hplain hwords
  · intro content more encoding hwords hencoding horder
    apply readsBack_text hplain hwords hencoding horder
  · intro uri more hwords
    apply readsBack_poster hplain hwords
  · intro mediaType digits payload hwords hpayload
    apply readsBack_media hplain hwords hpayload

/-- A text in the language of an option, and its area on the standard input in two lines; a text
in the encoding that a word names. -/
theorem readsBack_encoded_two_lines :
  let l : CommandLine := {
    settings := {}
    env := fun _ => none
    arguments := [.word "encode-text", .language "fi_FI", .word "Hi"] }
  let m : CommandLine := {
    settings := { language := some "de", container := .bare }
    env := fun _ => none
    arguments := [.word "decode", .container .tlv, .word "-", .language "ru"] }
  let unnamed : CommandLine := { m with arguments := .language "-" :: m.arguments }
  let wide : CommandLine := { m with
    arguments := [.word "encode-text", .word "Hi", .word "en", .word "UTF-16LE"] }
  let digits := "D101095482656EFFFE48006900"
  let back : CommandLine := { m with arguments := [.word "decode", .word digits] }
  let spaced := "030CD1010854\n0566692D46494869FE\n"
  l.Plain ∧ l.run [] = .ok "030CD10108540566692D46494869FE" ∧ m.Named
    ∧ Outcome.of (m.run (Utf8.encode spaced))
      = {
        status := 0
        output := "\x7b\"tnf\":\"well_known\",\"first\":true,\"last\":true,\"type\":\"T\","
          ++ "\"payload\":\"0566692D46494869\",\"kind\":\"text\",\"lang\":\"fi-FI\","
          ++ "\"text\":\"Hi\",\"encoding\":\"utf8\"\x7d\n"
        errors := "" }
    ∧ unnamed.Plain ∧ ¬ unnamed.Named ∧ unnamed.run [] = .error (.usage .badLanguage)
    ∧ wide.Plain ∧ wide.run [] = .ok digits
    ∧ Outcome.of (back.run [])
      = {
        status := 0
        output := "\x7b\"tnf\":\"well_known\",\"first\":true,\"last\":true,\"type\":\"T\","
          ++ "\"payload\":\"82656EFFFE48006900\",\"kind\":\"text\",\"lang\":\"en\","
          ++ "\"text\":\"Hi\",\"encoding\":\"utf16_le\"\x7d\n"
        errors := "" }
  := by
  intro l m unnamed wide digits back spaced
  have hplain : l.Plain := by decide
  have hnamed : m.Named := by decide
  have hrun : l.run [] = .ok "030CD10108540566692D46494869FE" := by decide +kernel
  have hspaced {digits text : String}
      (h : text.toList.filter (!isWhiteSpace ·) = digits.toList) :
      Hex.Spaced digits.toList text.toList := by
    rw [← h]
    apply Hex.spaced_filter
  obtain ⟨-, htext, -, -, hmisuse⟩ := readsBack_encoded hplain
  have hread := htext "Hi" [] .utf8 rfl rfl (by decide) [] _ hrun m _ spaced rfl hnamed
    (hspaced (by decide +kernel)) (.inr ⟨rfl, rfl⟩)
  have houtcome : Outcome.of (m.run (Utf8.encode spaced)) = _ := hread.1
  have hunnamed : ¬ unnamed.Named := by decide
  have hwide : wide.Plain := by decide
  have hwideRun : wide.run [] = .ok digits := by decide +kernel
  have hword : TextEncoding.ofName? "UTF-16LE" = some (.utf16 .littleEndian) := by
    apply TextEncoding.ofName?_eq_some_iff.mpr
    exact ⟨"utf16le", by decide, by decide⟩
  obtain ⟨-, htext, -⟩ := readsBack_encoded hwide
  have hread := htext "Hi" ["en", "UTF-16LE"] _ rfl hword (by decide) [] _ hwideRun back [] digits
    rfl (by decide) (hspaced (by decide +kernel)) (.inl rfl)
  have hback : Outcome.of (back.run []) = _ := hread.1
  refine ⟨hplain, hrun, hnamed, ?_, by decide, hunnamed, hmisuse unnamed [] (by decide) hunnamed,
    hwide, hwideRun, ?_⟩
  · rw [houtcome]
    decide +kernel
  · rw [hback]
    decide +kernel

/-- A record is written, but reading it back with a language without a name is a misuse. -/
theorem not_readsBack_unnamed_language :
  let l : CommandLine := {
    settings := { container := .bare }
    env := fun _ => none
    arguments := [.word "encode-uri", .word "https://a"] }
  let m : CommandLine := {
    settings := { container := .bare }
    env := fun _ => none
    arguments := [.language "", .word "decode", .word "D10102550461"] }
  l.Plain ∧ l.run [] = .ok "D10102550461"
    ∧ m.Plain ∧ m.options.container = l.options.container ∧ m.Decodes [] "D10102550461"
    ∧ m.run [] = .error (.usage .badLanguage)
  := by
  intro l m
  exact ⟨by decide, by decide +kernel, by decide, rfl, .inl rfl, by decide +kernel⟩

end CommandLine

end Ndef
