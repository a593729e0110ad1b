import LinkLedger.Check.Result
import LinkLedger.Proofs.CleanUp.Document
import LinkLedger.Settings.Document

/-!
# What is saved is read back

The documents of settings, content, progress, records, statuses and results of checks.  Each is read
by the decoder of its type as the value it was written for, whichever of its optional parts are
there.  Two writers leave entries out: that of a record, whose status is an object of its own, and
that of a result, in which the entries of the status stand among the others and are kept aside until
the name of the status is known.

**Results.**
* `Owner.reads`, `Settings.reads`, `Content.reads`, `LinkStatus.reads`, `LinkRecord.reads`,
  `CheckResult.reads`: each document is read as its value.
* `saved_reads_back`: so is its text.
-/

namespace LinkLedger

open Json

/-! ## Owner names and content -/

theorem Owner.reads
    (source : Source)
    (o : Owner) :
    Reads (Owner.decode source) o.toJson o := by
  let draft : Owner.Draft := ⟨some o.type, some o.id⟩
  refine Reads.bind (a := draft) (Fills.reads ?_ (by decide) source) rfl
  exact
    .field (fun _ => rfl) (.text o.type) <|
    .field (fun _ => rfl) (.text o.id) <|
    .done _ _

theorem FieldConfig.reads
    (source : Source)
    (c : FieldConfig) :
    Reads (FieldConfig.decode source) c.toJson c := by
  let draft : FieldConfig.Draft := ⟨some c.scan, some c.extractor⟩
  refine Reads.bind (a := draft) (Fills.reads ?_ (by decide) source) rfl
  exact
    .field (fun _ => rfl) (.bool c.scan) <|
    .field (fun _ => rfl) (.text c.extractor) <|
    .done _ _

/-- The values of fields by language are read as the table they are. -/
theorem Content.reads_fields
    (fields : Table (Table (List String))) :
    Reads
      (decodeTable fun r => (decodeTable (decodeList decodeText) r).map Table.ofList)
      (fields.toJson fun t => t.toJson fun values => .list (values.map .text))
      fields.entries := by
  refine .table fun field _ => ?_
  have hlanguages : Reads (decodeTable (decodeList decodeText))
      (field.2.toJson fun values => .list (values.map .text)) field.2.entries :=
    .table fun language _ => .list fun value _ => .text value
  have htable := hlanguages.map Table.ofList
  rw [Table.ofList_entries] at htable
  exact htable

theorem Content.reads
    (source : Source)
    (c : Content) :
    Reads (Content.decode source) c.toJson c := by
  have hconfigs : Reads (decodeTable (FieldConfig.decode source))
      (c.configs.toJson FieldConfig.toJson) c.configs.entries :=
    .table fun config _ => config.2.reads source
  let draft : Content.Draft :=
    ⟨some c.owner, some c.deleted, c.basePath, some (.ofList c.fields.entries),
      some (.ofList c.configs.entries)⟩
  refine Reads.bind (a := draft) (Fills.reads ?_ (by cases source <;> decide) source) ?_
  · exact
      .field (fun _ => rfl) (c.owner.reads source) <|
      .field (fun _ => rfl) (.bool c.deleted) <|
      .field (fun _ => rfl) (.textOrNull c.basePath) <|
      .field (fun _ => rfl) (Content.reads_fields c.fields) <|
      .field (fun _ => rfl) hconfigs <|
      .done _ _
  · dsimp only [draft]
    rw [Table.ofList_entries, Table.ofList_entries]
    rfl

/-! ## Settings -/

/-- All categories set are the categories they are set to. -/
theorem Categories.set_all
    (c c' : Categories) :
    ((((((c'.set "from_a" c.anchors).set "from_audio" c.audio).set "from_embed" c.embeds).set
      "from_iframe" c.frames).set "from_img" c.images).set "from_object" c.objects).set
        "from_video" c.videos = c := by
  simp [Categories.set]

theorem Categories.reads
    (source : Source)
    (c : Categories) :
    Reads (Categories.decode source) c.toJson c := by
  refine Fills.reads ?_ (by decide) source
  -- Each entry sets one category, so the entries lead to the standard ones with all of them set.
  conv => rhs; rw [← c.set_all .standard]
  exact
    .field (fun _ => rfl) (.bool c.anchors) <|
    .field (fun _ => rfl) (.bool c.audio) <|
    .field (fun _ => rfl) (.bool c.embeds) <|
    .field (fun _ => rfl) (.bool c.frames) <|
    .field (fun _ => rfl) (.bool c.images) <|
    .field (fun _ => rfl) (.bool c.objects) <|
    .field (fun _ => rfl) (.bool c.videos) <|
    .done _ _

/-- The numbers of settings fit into 64 bits. -/
structure Settings.Fits (s : Settings) : Prop where
  concurrency : s.check.concurrency ≤ maxNatural
  timeout : s.check.timeout ≤ maxNatural
  pageSize : s.pageSize ≤ maxNatural

theorem CheckSettings.reads
    (source : Source)
    (c : CheckSettings)
    (hconcurrency : c.concurrency ≤ maxNatural)
    (htimeout : c.timeout ≤ maxNatural) :
    Reads (CheckSettings.decode source) c.toJson c := by
  refine Fills.reads ?_ (by decide) source
  exact
    .field (fun _ => rfl) (.text c.excluded) <|
    .field (fun _ => rfl) (.nat "usize" hconcurrency hconcurrency) <|
    .field (fun _ => rfl) (.nat "u64" htimeout htimeout) <|
    .done _ _

theorem KindFilter.reads
    (source : Source)
    (f : KindFilter) :
    Reads (KindFilter.decode source) f.toJson f := by
  cases f with
  | all => exact ⟨trivial, rfl⟩
  | external => exact ⟨trivial, rfl⟩
  | internal => exact ⟨trivial, rfl⟩

theorem Settings.reads
    (source : Source)
    {s : Settings}
    (h : s.Fits) :
    Reads (Settings.decode source) s.toJson s := by
  refine Fills.reads ?_ (by cases source <;> decide) source
  exact
    .field (fun _ => rfl) (s.categories.reads source) <|
    .field (fun _ => rfl) (s.check.reads source h.concurrency h.timeout) <|
    .field (fun _ => rfl) (s.kinds.reads source) <|
    .field (fun _ => rfl) (.text s.scheme) <|
    .field (fun _ => rfl) (.text s.sitePath) <|
    .field (fun _ => rfl) (.nat "usize" h.pageSize h.pageSize) <|
    .done _ _

/-! ## Statuses -/

namespace LinkStatus

theorem wellSpelled_toEntries
    (s : LinkStatus) :
    EntriesWellSpelled s.toEntries := by
  cases s with
  | redirect target => exact ⟨trivial, trivial, trivial⟩
  | _ => exact ⟨trivial, trivial⟩

/-- The entries of a status give its name, and the others complete it. -/
theorem splitEntries_toEntries
    (source : Source)
    (depth : Nat)
    (s : LinkStatus) :
    ∃ named others,
      splitEntries source depth none (Reading.ofEntries s.toEntries) .closed =
        .ok (named, others) ∧
      named.complete others = .ok s := by
  cases s with
  | redirect target =>
      refine ⟨.redirect "", [(.text "target", .text target)], ?_, rfl⟩
      simp [toEntries, Reading.ofEntries, Reading.ofJson, splitEntries, decodeName, choose, byName,
        takeWholeValue, Stop.check, bind, Except.bind]
      cases source <;> rfl
  | ok => exact ⟨.ok, [], by cases source <;> rfl, rfl⟩
  | broken => exact ⟨.broken, [], by cases source <;> rfl, rfl⟩
  | timeout => exact ⟨.timeout, [], by cases source <;> rfl, rfl⟩
  | sslError => exact ⟨.sslError, [], by cases source <;> rfl, rfl⟩
  | tooManyRedirects => exact ⟨.tooManyRedirects, [], by cases source <;> rfl, rfl⟩
  | dnsError => exact ⟨.dnsError, [], by cases source <;> rfl, rfl⟩
  | error => exact ⟨.error, [], by cases source <;> rfl, rfl⟩

theorem reads
    (depth : Nat)
    (s : LinkStatus) :
    Reads (decode depth) s.toJson s := by
  refine ⟨s.wellSpelled_toEntries, ?_⟩
  obtain ⟨named, others, hsplit, hcomplete⟩ := splitEntries_toEntries .text depth s
  rw [toJson, Reading.ofJson, decode, hsplit]
  exact hcomplete

end LinkStatus

/-! ## Records -/

/-- The numbers of a record fit into their types, and the time of its last check is read back. -/
structure LinkRecord.Fits (r : LinkRecord) : Prop where
  id : ∀ n ∈ r.id, n ≤ maxNatural
  failCount : r.failCount ≤ maxFailCount
  lastChecked : ∀ t ∈ r.lastChecked, Timestamp.read t.write = .ok t

theorem Timestamp.reads
    {t : Timestamp}
    (h : Timestamp.read t.write = .ok t) :
    Reads Timestamp.decode (.text (String.ofList t.write)) t := by
  refine ⟨trivial, ?_⟩
  rw [Reading.ofJson, Timestamp.decode, String.toList_ofList, h]

/-- The entries of a record, in front of each other. -/
theorem LinkRecord.toJson_eq
    (r : LinkRecord) :
    r.toJson = .fields
      (("id", natOrNull r.id) :: ("url", .text r.url) :: ("parent", r.owner.toJson) ::
        ("entity_field", .text r.field) :: ("entity_langcode", .text r.language) ::
        (optionalEntry "status" LinkStatus.toJson r.status ++
          ("fail_count", .nat r.failCount) ::
            (optionalEntry "last_checked" (fun t => .text (String.ofList t.write)) r.lastChecked ++
              []))) := by
  simp [LinkRecord.toJson]

theorem LinkRecord.reads
    (source : Source)
    {r : LinkRecord}
    (h : r.Fits) :
    Reads (LinkRecord.decode source) r.toJson r := by
  have hcount : r.failCount ≤ maxNatural := Nat.le_trans h.failCount (by decide)
  let draft : LinkRecord.Draft :=
    ⟨r.id, some r.url, some r.owner, some r.field, some r.language, r.status, some r.failCount,
      r.lastChecked⟩
  rw [toJson_eq]
  refine Reads.bind (a := draft) (Fills.reads ?_ (by cases source <;> decide) source) rfl
  exact
    .field (fun _ => rfl) (.natOrNull "u64" h.id) <|
    .field (fun _ => rfl) (.text r.url) <|
    .field (fun _ => rfl) (r.owner.reads source) <|
    .field (fun _ => rfl) (.text r.field) <|
    .field (fun _ => rfl) (.text r.language) <|
    .optional (fun _ => rfl) rfl (fun s _ => ⟨s.reads (nestingLimit - 2), nofun⟩) <|
    .field (fun _ => rfl) (.nat "u32" hcount h.failCount) <|
    .optional (fun _ => rfl) rfl (fun t ht => ⟨Timestamp.reads (h.lastChecked t ht), nofun⟩) <|
    .done _ _

/-! ## Results of checks -/

namespace CheckResult

/-- The codes of a result fit into 16 bits. -/
def Fits (r : CheckResult) : Prop := ∀ n ∈ r.code, n ≤ maxCode

theorem takeEntries_append
    (front back : List (String × Json))
    (d : Draft) :
    takeEntries (Reading.ofEntries (front ++ back)) d = (do
      takeEntries (Reading.ofEntries back) (← takeEntries (Reading.ofEntries front) d)) := by
  induction front generalizing d with
  | nil => rfl
  | cons e front ih =>
      rw [List.cons_append, Reading.ofEntries, Reading.ofEntries, takeEntries, takeEntries]
      cases takeEntry e.1 (.ofJson e.2) d with
      | error fault => rfl
      | ok d' => exact ih d'

/-- The entries of a status are kept aside. -/
theorem takeEntries_toEntries
    (s : LinkStatus)
    (d : Draft) :
    takeEntries (Reading.ofEntries s.toEntries) d =
      .ok { d with others := (Reading.ofEntries s.toEntries).reverse ++ d.others } := by
  cases s <;> rfl

/-- An entry that may be left out: the result under construction starts without one. -/
theorem takeEntries_optionalEntry
    {α : Type}
    (name : String)
    (toJson : α → Json)
    (a? : Option α)
    (set : Option α → Draft)
    (hentry : ∀ a ∈ a?, takeEntry name (.ofJson (toJson a)) (set none) = .ok (set (some a))) :
    takeEntries (Reading.ofEntries (optionalEntry name toJson a?)) (set none) = .ok (set a?) := by
  cases a? with
  | none => rfl
  | some a =>
      rw [optionalEntry, Reading.ofEntries, takeEntries, hentry a rfl]
      rfl

/-- The entries of a result are taken in as its parts. -/
theorem takeEntries_toJson
    {r : CheckResult}
    (h : r.Fits) :
    takeEntries
        (Reading.ofEntries
          (("url", .text r.url) :: r.status.toEntries ++ optionalEntry "code" Json.nat r.code ++
            optionalEntry "message" Json.text r.message))
        ⟨none, none, none, []⟩ =
      .ok ⟨some r.url, r.code.map some, r.message.map some,
        (Reading.ofEntries r.status.toEntries).reverse⟩ := by
  have hfront : takeEntries (Reading.ofEntries (("url", .text r.url) :: r.status.toEntries))
      ⟨none, none, none, []⟩ =
        .ok ⟨some r.url, none, none, (Reading.ofEntries r.status.toEntries).reverse⟩ := by
    rw [Reading.ofEntries, takeEntries]
    refine (takeEntries_toEntries r.status ⟨some r.url, none, none, []⟩).trans ?_
    rw [List.append_nil]
  have hcode := takeEntries_optionalEntry "code" Json.nat r.code
    (fun code => ⟨some r.url, code.map some, none,
      (Reading.ofEntries r.status.toEntries).reverse⟩) fun n hn => by
    have hnull : Json.nat n ≠ .null := fun heq => Json.noConfusion heq
    have hread := (Reads.nat "u16" (Nat.le_trans (h n hn) (by decide)) (h n hn)).some hnull
    show Except.map _ _ = _
    rw [hread.decodes]
    rfl
  have hmessage := takeEntries_optionalEntry "message" Json.text r.message
    (fun message => ⟨some r.url, r.code.map some, message.map some,
      (Reading.ofEntries r.status.toEntries).reverse⟩) fun s _ => rfl
  rw [takeEntries_append, takeEntries_append, hfront]
  exact bind_eq_ok.2 ⟨_, hcode, hmessage⟩

theorem wellSpelled_toJson
    (r : CheckResult) :
    r.toJson.WellSpelled := by
  have hcode : EntriesWellSpelled (optionalEntry "code" Json.nat r.code) :=
    wellSpelled_optionalEntry fun n _ => wellSpelled_ofNat n
  have hmessage : EntriesWellSpelled (optionalEntry "message" Json.text r.message) :=
    wellSpelled_optionalEntry fun s _ => trivial
  refine entriesWellSpelled_append.2 ⟨entriesWellSpelled_append.2 ⟨?_, hcode⟩, hmessage⟩
  exact ⟨trivial, r.status.wellSpelled_toEntries⟩

theorem reads
    {r : CheckResult}
    (h : r.Fits) :
    Reads decode r.toJson r := by
  refine ⟨r.wellSpelled_toJson, ?_⟩
  obtain ⟨named, others, hsplit, hcomplete⟩ :=
    LinkStatus.splitEntries_toEntries .document nestingLimit r.status
  have hcode : (r.code.map some).getD none = r.code := by
    cases r.code <;> rfl
  have hmessage : (r.message.map some).getD none = r.message := by
    cases r.message <;> rfl
  rw [toJson, Reading.ofJson, decode, takeEntries_toJson h]
  refine bind_eq_ok.2 ⟨_, rfl, bind_eq_ok.2 ⟨(), rfl, bind_eq_ok.2 ⟨r.url, rfl, ?_⟩⟩⟩
  rw [List.reverse_reverse, hcode, hmessage]
  exact bind_eq_ok.2 ⟨_, hsplit, bind_eq_ok.2 ⟨r.status, hcomplete, rfl⟩⟩

end CheckResult

/-! ## Texts -/

/--
What is saved is read back.  The text of settings, content, progress, a record, a status or a result
of a check is read, as a document of its type, as the value that it was written for.
-/
theorem saved_reads_back :
    (∀ s : Settings, s.Fits → decodeDocument (Settings.decode .text) s.toJson.render = .ok s) ∧
    (∀ c : Content, decodeDocument (Content.decode .text) c.toJson.render = .ok c) ∧
    (∀ p : Progress, p.Fits → decodeDocument (Progress.decode .text) p.toJson.render = .ok p) ∧
    (∀ r : LinkRecord, r.Fits →
      decodeDocument (LinkRecord.decode .text) r.toJson.render = .ok r) ∧
    (∀ s : LinkStatus,
      decodeDocument (LinkStatus.decode (nestingLimit - 1)) s.toJson.render = .ok s) ∧
    (∀ r : CheckResult, r.Fits → decodeDocument CheckResult.decode r.toJson.render = .ok r) := by
  refine ⟨?_, ?_, ?_, ?_, ?_, ?_⟩
  · intro s hs
    exact (Settings.reads .text hs).document
  · intro c
    exact (c.reads .text).document
  · intro p hp
    exact Progress.ofText_toText hp
  · intro r hr
    exact (LinkRecord.reads .text hr).document
  · intro s
    exact (s.reads (nestingLimit - 1)).document
  · intro r hr
    exact (CheckResult.reads hr).document

/-- A redirect with marks in its target, in a record with the largest numbers and in a result. -/
theorem saved_reads_back_redirect :
    let r : LinkRecord :=
      ⟨some maxNatural, "http://a.test/\"\\", ⟨"node", ""⟩, "body", "de",
        some (.redirect "\tü\x7f\x01"), maxFailCount, some ⟨19000, 3661, 500000000⟩⟩
    let result : CheckResult := ⟨r.url, .redirect "\"status\"", some CheckResult.maxCode, none⟩
    r.Fits ∧ result.Fits ∧
      decodeDocument (LinkRecord.decode .text) r.toJson.render = .ok r ∧
      decodeDocument CheckResult.decode result.toJson.render = .ok result := by
  intro r result
  obtain ⟨-, -, -, hrecord, -, hresult⟩ := saved_reads_back
  have hfits : r.Fits := by
    constructor
    · rintro n hn
      cases hn
      decide
    · decide
    · rintro t ht
      cases ht
      rfl
  have hcode : result.Fits := by
    rintro n hn
    cases hn
    decide
  exact ⟨hfits, hcode, hrecord r hfits, hresult result hcode⟩

end LinkLedger
