import LinkLedger.Proofs.Json.Scattered
import LinkLedger.Proofs.Record.Documents
import LinkLedger.Settings.File

/-!
# Settings documents that leave keys out

A settings document may leave keys out, at the top and in its sections, may have the others in any
order, and may have any other keys among them.  It lays the settings that it has over the standard
ones.  A key that is written twice makes it no settings document.

**Results.**
* `Settings.leaving`: settings with standard values for some keys.
* `Settings.Leaves`: the documents of settings with some keys left out.
* `Categories.decode_leaving`, `CheckSettings.decode_leaving`: what is read of a section.
* `Settings.decode_leaving`: what is read of such a document.
* `Settings.document_overlays`: what is read of its text, and of a text with a key written twice.
-/

namespace LinkLedger

open Json

/-! ## Sections -/

namespace Categories

/-- Categories with the standard ones for some names. -/
def leaving (left : String → Bool) (c : Categories) : Categories where
  anchors := if left "from_a" then standard.anchors else c.anchors
  audio := if left "from_audio" then standard.audio else c.audio
  embeds := if left "from_embed" then standard.embeds else c.embeds
  frames := if left "from_iframe" then standard.frames else c.frames
  images := if left "from_img" then standard.images else c.images
  objects := if left "from_object" then standard.objects else c.objects
  videos := if left "from_video" then standard.videos else c.videos

/-- The entries of the document of categories, with what they do. -/
def fillings (c : Categories) : List (Filling shape) :=
  [.of "from_a" (·.anchors) (fun on d => { d with anchors := on }) (Reads.bool c.anchors).decodes
      (fun _ _ => rfl) fun _ => rfl,
    .of "from_audio" (·.audio) (fun on d => { d with audio := on }) (Reads.bool c.audio).decodes
      (fun _ _ => rfl) fun _ => rfl,
    .of "from_embed" (·.embeds) (fun on d => { d with embeds := on }) (Reads.bool c.embeds).decodes
      (fun _ _ => rfl) fun _ => rfl,
    .of "from_iframe" (·.frames) (fun on d => { d with frames := on }) (Reads.bool c.frames).decodes
      (fun _ _ => rfl) fun _ => rfl,
    .of "from_img" (·.images) (fun on d => { d with images := on }) (Reads.bool c.images).decodes
      (fun _ _ => rfl) fun _ => rfl,
    .of "from_object" (·.objects) (fun on d => { d with objects := on })
      (Reads.bool c.objects).decodes (fun _ _ => rfl) fun _ => rfl,
    .of "from_video" (·.videos) (fun on d => { d with videos := on }) (Reads.bool c.videos).decodes
      (fun _ _ => rfl) fun _ => rfl]

theorem commutes_fillings
    (c : Categories) :
    c.fillings.Pairwise Filling.Commutes := by
  simp [fillings, Filling.Commutes, Filling.of]

/-- A section of categories with some names left out, in any order and with others among them, is
read as the categories with the standard ones for these names. -/
theorem decode_leaving
    (c : Categories)
    (left : String → Bool)
    {es : List (String × Json)}
    (h : Scattered shape.names (c.toJson.members.filter fun e => !left e.1) es)
    (source : Source) :
    decode source (.ofJson (.fields es)) = .ok (c.leaving left) :=
  Filling.decode_of_scattered c.commutes_fillings
    (show shape.names.Nodup by decide) h source standard

end Categories

namespace CheckSettings

/-- Check settings with the standard ones for some names. -/
def leaving (left : String → Bool) (c : CheckSettings) : CheckSettings where
  excluded := if left "disable_link_check_for_urls" then standard.excluded else c.excluded
  concurrency := if left "concurrency" then standard.concurrency else c.concurrency
  timeout := if left "timeout_secs" then standard.timeout else c.timeout

/-- The entries of the document of check settings, with what they do. -/
def fillings (c : CheckSettings) (hconcurrency : c.concurrency ≤ maxNatural)
    (htimeout : c.timeout ≤ maxNatural) : List (Filling shape) :=
  [.of "disable_link_check_for_urls" (·.excluded) (fun t d => { d with excluded := t })
      (Reads.text c.excluded).decodes (fun _ _ => rfl) fun _ => rfl,
    .of "concurrency" (·.concurrency) (fun n d => { d with concurrency := n })
      (Reads.nat "usize" hconcurrency hconcurrency).decodes (fun _ _ => rfl) fun _ => rfl,
    .of "timeout_secs" (·.timeout) (fun n d => { d with timeout := n })
      (Reads.nat "u64" htimeout htimeout).decodes (fun _ _ => rfl) fun _ => rfl]

theorem commutes_fillings
    (c : CheckSettings)
    (hconcurrency : c.concurrency ≤ maxNatural)
    (htimeout : c.timeout ≤ maxNatural) :
    (c.fillings hconcurrency htimeout).Pairwise Filling.Commutes := by
  simp [fillings, Filling.Commutes, Filling.of]

/-- A section of check settings with some names left out, in any order and with others among them,
is read as the check settings with the standard ones for these names. -/
theorem decode_leaving
    {c : CheckSettings}
    (hconcurrency : c.concurrency ≤ maxNatural)
    (htimeout : c.timeout ≤ maxNatural)
    (left : String → Bool)
    {es : List (String × Json)}
    (h : Scattered shape.names (c.toJson.members.filter fun e => !left e.1) es)
    (source : Source) :
    decode source (.ofJson (.fields es)) = .ok (c.leaving left) :=
  Filling.decode_of_scattered (c.commutes_fillings hconcurrency htimeout)
    (show shape.names.Nodup by decide) h source standard

end CheckSettings

/-! ## Whole documents -/

namespace Settings

/-- Settings with the standard ones for some keys, those of sections behind the name of the
section. -/
def leaving (left : String → Bool) (s : Settings) : Settings where
  categories := s.categories.leaving fun name => left ("extract." ++ name)
  check := s.check.leaving fun name => left ("check." ++ name)
  kinds := if left "check_links_types" then standard.kinds else s.kinds
  scheme := if left "default_url_scheme" then standard.scheme else s.scheme
  sitePath := if left "base_path" then standard.sitePath else s.sitePath
  pageSize := if left "batch_size" then standard.pageSize else s.pageSize

/-- What is there of a section that has some entries to keep: they, in any order and with others
among them; or nothing, if there are none. -/
def HasSection (names : List String) (kept : List (String × Json)) :
    Option (List (String × Json)) → Prop
  | none => kept = []
  | some es => Scattered names kept es

/-- The entries of a document of settings that leaves keys out: in any order and with others among
them, what is there of the sections, and the other entries that are not left out. -/
def Leaves (s : Settings) (left : String → Bool) (es : List (String × Json)) : Prop :=
  ∃ extract check : Option (List (String × Json)),
    HasSection Categories.shape.names
      (s.categories.toJson.members.filter fun e => !left ("extract." ++ e.1)) extract ∧
    HasSection CheckSettings.shape.names
      (s.check.toJson.members.filter fun e => !left ("check." ++ e.1)) check ∧
    Scattered (shape .text).names
      (extract.toList.map (fun part => ("extract", .fields part)) ++
        check.toList.map (fun part => ("check", .fields part)) ++
        s.toJson.members.filter fun e => e.1 ∉ ["extract", "check"] && !left e.1)
      es

/-- What is there of a section is read like the whole of it, if what is not there counts as an
object without entries. -/
theorem HasSection.scattered
    {names : List String}
    {kept : List (String × Json)}
    {part? : Option (List (String × Json))}
    (h : HasSection names kept part?) :
    Scattered names kept (part?.getD []) := by
  cases part? with
  | none =>
      obtain rfl : kept = [] := h
      exact .refl _
  | some es => exact h

/-- A section that is not there has the value that one without entries is read as. -/
theorem ite_isNone
    {α : Type}
    (d : Decoder α)
    {part? : Option (List (String × Json))}
    {a b : α}
    (hempty : d (.ofJson (.fields [])) = .ok a)
    (h : d (.ofJson (.fields (part?.getD []))) = .ok b) :
    (if part?.isNone then a else b) = b := by
  cases part? with
  | none => exact Except.ok.inj (hempty.symm.trans h)
  | some es => rfl

/-- The entries of the document of settings with given sections, with what they do. -/
def fillings (s : Settings) (hsize : s.pageSize ≤ maxNatural) (source : Source)
    {extract check : Json} {c : Categories} {d : CheckSettings}
    (hextract : Categories.decode source (.ofJson extract) = .ok c)
    (hcheck : CheckSettings.decode source (.ofJson check) = .ok d) :
    List (Filling (shape source)) :=
  [.of "extract" (·.categories) (fun c t => { t with categories := c }) hextract (fun _ _ => rfl)
      fun _ => rfl,
    .of "check" (·.check) (fun d t => { t with check := d }) hcheck (fun _ _ => rfl) fun _ => rfl,
    .of "check_links_types" (·.kinds) (fun k t => { t with kinds := k })
      (s.kinds.reads source).decodes (fun _ _ => rfl) fun _ => rfl,
    .of "default_url_scheme" (·.scheme) (fun v t => { t with scheme := v })
      (Reads.text s.scheme).decodes (fun _ _ => rfl) fun _ => rfl,
    .of "base_path" (·.sitePath) (fun v t => { t with sitePath := v })
      (Reads.text s.sitePath).decodes (fun _ _ => rfl) fun _ => rfl,
    .of "batch_size" (·.pageSize) (fun n t => { t with pageSize := n })
      (Reads.nat "usize" hsize hsize).decodes (fun _ _ => rfl) fun _ => rfl]

theorem commutes_fillings
    (s : Settings)
    (hsize : s.pageSize ≤ maxNatural)
    (source : Source)
    {extract check : Json}
    {c : Categories}
    {d : CheckSettings}
    (hextract : Categories.decode source (.ofJson extract) = .ok c)
    (hcheck : CheckSettings.decode source (.ofJson check) = .ok d) :
    (s.fillings hsize source hextract hcheck).Pairwise Filling.Commutes := by
  simp [fillings, Filling.Commutes, Filling.of]

/-- The keys of a document whose entries are not there. -/
def absent (left : String → Bool) (extract check : Option (List (String × Json))) :
    String → Bool
  | "extract" => extract.isNone
  | "check" => check.isNone
  | name => left name

theorem filter_fillings
    (s : Settings)
    (hsize : s.pageSize ≤ maxNatural)
    (source : Source)
    (left : String → Bool)
    (extract check : Option (List (String × Json)))
    {c : Categories}
    {d : CheckSettings}
    (hextract : Categories.decode source (.ofJson (.fields (extract.getD []))) = .ok c)
    (hcheck : CheckSettings.decode source (.ofJson (.fields (check.getD []))) = .ok d) :
    ((s.fillings hsize source hextract hcheck).map Filling.entry).filter
        (fun e => !absent left extract check e.1) =
      extract.toList.map (fun part => ("extract", .fields part)) ++
        check.toList.map (fun part => ("check", .fields part)) ++
        s.toJson.members.filter fun e => e.1 ∉ ["extract", "check"] && !left e.1 := by
  have hscalars : s.toJson.members.filter (fun e => e.1 ∉ ["extract", "check"] && !left e.1) =
      (s.toJson.members.drop 2).filter fun e => !absent left extract check e.1 := by
    simp [toJson, members, absent, List.filter_cons]
  rw [hscalars]
  cases extract with
  | none => cases check <;> rfl
  | some es => cases check <;> rfl

theorem fill_fillings
    (s : Settings)
    (hsize : s.pageSize ≤ maxNatural)
    (source : Source)
    (left : String → Bool)
    (extract check : Option (List (String × Json)))
    {c : Categories}
    {d : CheckSettings}
    (hextract : Categories.decode source (.ofJson (.fields (extract.getD []))) = .ok c)
    (hcheck : CheckSettings.decode source (.ofJson (.fields (check.getD []))) = .ok d) :
    Filling.fill (absent left extract check) (s.fillings hsize source hextract hcheck) standard =
      { s.leaving left with
        categories := if extract.isNone then .standard else c
        check := if check.isNone then .standard else d } :=
  rfl

/-- A document of settings that leaves keys out is read as the settings with the standard ones for
these keys. -/
theorem decode_leaving
    {s : Settings}
    (hs : s.Fits)
    {left : String → Bool}
    {es : List (String × Json)}
    (h : s.Leaves left es)
    (source : Source) :
    decode source (.ofJson (.fields es)) = .ok (s.leaving left) := by
  obtain ⟨extract, check, hextract, hcheck, hscattered⟩ := h
  have hcategories := s.categories.decode_leaving (fun name => left ("extract." ++ name))
    hextract.scattered source
  have hchecks := CheckSettings.decode_leaving hs.concurrency hs.timeout
    (fun name => left ("check." ++ name)) hcheck.scattered source
  rw [← s.filter_fillings hs.pageSize source left extract check hcategories hchecks] at hscattered
  have hread := Filling.decode_of_scattered
    (s.commutes_fillings hs.pageSize source hcategories hchecks)
    (show (shape source).names.Nodup by cases source <;> decide) hscattered source standard
  rw [decode, hread, fill_fillings, ite_isNone (Categories.decode source) rfl hcategories,
    ite_isNone (CheckSettings.decode source) rfl hchecks]
  rfl

/-! ## Keys written twice -/

/-- A key is written twice among the entries of a document of settings, or in a section of it. -/
def RepeatsKey (es : List (String × Json)) : Prop :=
  Repeats (shape .text).names es ∨
    (∃ part, ("extract", .fields part) ∈ es ∧ Repeats Categories.shape.names part) ∨
    ∃ part, ("check", .fields part) ∈ es ∧ Repeats CheckSettings.shape.names part

/-- A document in which a key is written twice is refused. -/
theorem decode_of_repeatsKey
    {es : List (String × Json)}
    (h : RepeatsKey es)
    (s : Settings) :
    decode .text (.ofJson (.fields es)) ≠ .ok s := by
  rcases h with h | ⟨part, hmem, h⟩ | ⟨part, hmem, h⟩
  · exact decode_of_repeats h
  · refine decode_of_refused hmem (by decide) fun t t' => ?_
    change (Categories.decode .text (.ofJson (.fields part))).map _ ≠ _
    exact map_ne_ok (fun _ => decode_of_repeats h) _ t'
  · refine decode_of_refused hmem (by decide) fun t t' => ?_
    change (CheckSettings.decode .text (.ofJson (.fields part))).map _ ≠ _
    exact map_ne_ok (fun _ => decode_of_repeats h) _ t'

/-! ## Texts -/

theorem ofDocument_of_ok
    {text : String}
    {s : Settings}
    (h : ofText text = .ok s) :
    ofDocument text = .ok s := by
  rw [ofDocument, h]

theorem ofDocument_of_error
    {text : String}
    (h : ∀ s, ofText text ≠ .ok s) :
    ∃ e, ofDocument text = .error (.settings (.document e)) := by
  rw [ofDocument]
  cases hread : ofText text with
  | ok s => exact absurd hread (h s)
  | error e => exact ⟨e, rfl⟩

/--
A text that spells a document of settings with some keys left out, the others in any order at the
top and in the sections, and any other keys with any values among them, is read as the settings with
the standard ones for the keys that are left out; so is, in particular, the text that such a
document is written as.  Any text that spells an object in which a key is written twice, at the top
or in a section, is refused as a settings document.
-/
theorem document_overlays
    {s : Settings}
    (hs : s.Fits)
    (left : String → Bool)
    {es : List (String × Json)}
    (h : s.Leaves left es) :
    (∀ text, Spells text (.fields es) → ofDocument text = .ok (s.leaving left)) ∧
      (EntriesWellSpelled es → Spells (Json.fields es).render (.fields es)) ∧
      ∀ es' text, Spells text (.fields es') → RepeatsKey es' →
        ∃ e, ofDocument text = .error (.settings (.document e)) := by
  refine ⟨fun text htext => ?_, fun hspelled => spells_render hspelled,
    fun es' text htext hrepeats => ?_⟩
  · refine ofDocument_of_ok ?_
    rw [ofText, htext.decode]
    exact decode_leaving hs h .text
  · refine ofDocument_of_error fun t => ?_
    rw [ofText, htext.decode]
    exact decode_of_repeatsKey hrepeats t

/-- A document without a section of checks, in another order and with others among the entries. -/
theorem document_overlays_reversed :
    ofDocument (Json.fields
        [("batch", .list [.number ⟨true, ['1'], ['5'], none⟩]), ("base_path", .text "a.test"),
          ("extract", .fields [("from_b", .nat 1), ("from_img", .bool true)])]).render =
      .ok ⟨⟨true, false, false, false, true, false, false⟩, .standard, .all, "http://", "a.test",
        50⟩ := by
  let s : Settings := ⟨⟨false, true, true, true, true, true, true⟩, ⟨"a", 1, 2⟩, .internal,
    "https://", "a.test", 7⟩
  let left : String → Bool := fun key => key ∉ ["extract.from_img", "base_path"]
  have hs : s.Fits := ⟨by decide, by decide, by decide⟩
  have hleaves : s.Leaves left
      [("batch", .list [.number ⟨true, ['1'], ['5'], none⟩]), ("base_path", .text "a.test"),
        ("extract", .fields [("from_b", .nat 1), ("from_img", .bool true)])] := by
    refine ⟨some [("from_b", .nat 1), ("from_img", .bool true)], none, ?_, ?_, ?_⟩
    · exact .refl _
    · rfl
    · exact .swap _ _ _
  have hnumber : Numeral.WellSpelled ⟨true, ['1'], ['5'], none⟩ := by
    constructor <;> simp
  have hspelled : EntriesWellSpelled
      [("batch", .list [.number ⟨true, ['1'], ['5'], none⟩]), ("base_path", .text "a.test"),
        ("extract", .fields [("from_b", .nat 1), ("from_img", .bool true)])] :=
    ⟨⟨hnumber, trivial⟩, trivial, ⟨wellSpelled_ofNat 1, trivial, trivial⟩, trivial⟩
  obtain ⟨hread, hrender, -⟩ := document_overlays hs left hleaves
  exact hread _ (hrender hspelled)

end Settings

end LinkLedger
