import LinkLedger.Proofs.Url.Front
import LinkLedger.Proofs.Url.Paths
import LinkLedger.Proofs.Url.WrittenHosts

/-!
# Every part of a URL is encoded

In a URL of a common scheme that has been read, or that a reference has been resolved to, no part has
a character in it that would end the part, and none has a space.  So a written URL can be taken apart
again, and it shows what requests for the URL name.

**Results.**
* `Encoded`: URLs of the common schemes whose parts are encoded.
* `encoded_of_parse`, `Encoded.join`: what is read of texts and references is encoded.
* `Encoded.space_not_mem_write`: such a URL is written without spaces.
* `Encoded.write_inj`: what stands in front of the fragment, and behind the user, is determined by
  what is written.
-/

namespace LinkLedger
namespace Url

open Text

/-! ## URLs -/

/-- An authority whose user and password are encoded, with a host. -/
structure EncodedAuthority (a : Authority) : Prop where
  user : ∀ c ∈ a.user, inUser c = false
  password : ∀ c ∈ a.password, inUser c = false
  host : ∃ host, a.host = some host ∧ ∀ c ∈ host.write, isHostChar c = true

/-- A URL of a common scheme with encoded parts up to its path. -/
structure EncodedFront (u : Url) : Prop where
  common : isCommon u.scheme = true
  authority : ∃ a, u.authority = some a ∧ EncodedAuthority a
  rooted : u.path.head? = some '/'
  path : ∀ c ∈ u.path, inPath c = false

/-- A URL of a common scheme whose parts are encoded. -/
structure Encoded (u : Url) : Prop extends EncodedFront u where
  query : ∀ q ∈ u.query, ∀ c ∈ q, inQuery c = false
  fragment : ∀ f ∈ u.fragment, ∀ c ∈ f, inFragment c = false

/-- A tail is encoded when it is added. -/
theorem EncodedFront.withTail
    {u : Url}
    (h : EncodedFront u)
    (cs : List Char) :
    Encoded (Url.withTail u cs) := by
  have hquery : ∀ (special : Bool) (text : List Char), ∀ c ∈ queryOf special text,
      inQuery c = false := by
    intro special text c hc
    cases special
    · exact inSet_of_mem_percentEncode (by decide) hc
    · have hboth := inSet_of_mem_percentEncode (p := inCommonQuery) (by decide) hc
      exact (Bool.or_eq_false_iff.1 hboth).1
  have hfragment : ∀ text, ∀ f ∈ fragmentOf? text, ∀ c ∈ f, inFragment c = false := by
    intro text f hf c hc
    unfold fragmentOf? at hf
    split at hf
    · cases hf
      exact inSet_of_mem_percentEncode (by decide) hc
    · cases hf
  unfold Url.withTail
  split
  · refine ⟨⟨h.common, h.authority, h.rooted, h.path⟩, ?_, hfragment _⟩
    intro q hq
    cases hq
    exact hquery _ _
  · exact ⟨⟨h.common, h.authority, h.rooted, h.path⟩, nofun, hfragment cs⟩

theorem encodedAuthority_of_readPlace
    {scheme place : List Char}
    {read : Host × Option Nat}
    (h : readPlace scheme place = .ok read)
    (user : Option (List Char)) :
    EncodedAuthority (authorityOf user read) := by
  obtain ⟨host, hhost, h⟩ := exists_of_bind_eq_ok h
  have hfirst : read.1 = host := by
    split at h
    · obtain ⟨port, -, rfl⟩ := exists_of_map_eq_ok h
      rfl
    · cases h
      rfl
  refine ⟨fun c hc => inSet_of_mem_percentEncode (by decide) hc,
    fun c hc => inSet_of_mem_percentEncode (by decide) hc, host, ?_, Host.isHostChar_of_read hhost⟩
  rw [← hfirst]
  rfl

/-- What is read behind the slashes of a URL is encoded. -/
theorem encoded_of_readBehindSlashes
    {scheme cs : List Char}
    {u : Url}
    (hcommon : isCommon scheme = true)
    (h : readBehindSlashes scheme cs = .ok u) :
    Encoded u := by
  rw [readBehindSlashes_eq hcommon] at h
  obtain ⟨read, hread, rfl⟩ := exists_of_map_eq_ok h
  obtain ⟨text, htext⟩ :=
    exists_pathBehindHost hcommon (before endsPath (since (endsAuthority true) cs))
  refine EncodedFront.withTail ⟨hcommon, ⟨_, rfl, encodedAuthority_of_readPlace hread _⟩, ?_, ?_⟩ _
  · exact congrArg List.head? htext
  · intro c hc
    rw [htext] at hc
    exact inPath_of_mem_joinPath hcommon (by simp) hc

/-- A URL of a common scheme is encoded when it is read. -/
theorem encoded_of_readBehindScheme
    {scheme cs : List Char}
    {u : Url}
    (hcommon : isCommon scheme = true)
    (h : readBehindScheme scheme cs = .ok u) :
    Encoded u := by
  rw [readBehindScheme, if_pos hcommon] at h
  exact encoded_of_readBehindSlashes hcommon h

theorem encoded_of_parse
    {cs : List Char}
    {u : Url}
    (h : parse cs = .ok u)
    (hcommon : isCommon u.scheme = true) :
    Encoded u := by
  unfold parse at h
  split at h
  · rw [readBehindScheme_scheme h] at hcommon
    exact encoded_of_readBehindScheme hcommon h
  · cases h

/-- A URL with another path in place of its own. -/
theorem Encoded.withPath
    {base : Url}
    (h : Encoded base)
    {above : List (List Char)}
    (habove : ∀ s ∈ above, ∀ c ∈ s, inPath c = false)
    (text behind : List Char) :
    Encoded (Url.withTail { base with path := joinPath base.scheme above text } behind) :=
  EncodedFront.withTail (u := { base with path := joinPath base.scheme above text })
    ⟨h.common, h.authority, rfl, fun _ hc => inPath_of_mem_joinPath h.common habove hc⟩ behind

/-- What a reference without a scheme is resolved to. -/
theorem Encoded.readRelative
    {base u : Url}
    {cs : List Char}
    (h : Encoded base)
    (hread : Url.readRelative base cs = .ok u) :
    Encoded u := by
  unfold Url.readRelative at hread
  dsimp only at hread
  split at hread
  · cases hread
    exact ⟨⟨h.common, h.authority, h.rooted, h.path⟩, h.query, nofun⟩
  · cases hread
    exact h.withTail _
  · cases hread
    refine ⟨⟨h.common, h.authority, h.rooted, h.path⟩, h.query, ?_⟩
    rintro _ ⟨⟩ c hc
    exact inSet_of_mem_percentEncode (by decide) hc
  · split at hread
    · split at hread
      · exact encoded_of_readBehindSlashes h.common hread
      · cases hread
        exact h.withPath (by simp) _ _
    · cases hread
      exact h.withPath (inPath_of_mem_directory h.path) _ _

/-- What a reference is resolved to is encoded, if it has a common scheme. -/
theorem Encoded.join
    {base u : Url}
    {cs : List Char}
    (h : Encoded base)
    (hjoin : Url.join base cs = .ok u)
    (hcommon : isCommon u.scheme = true) :
    Encoded u := by
  unfold Url.join at hjoin
  dsimp only at hjoin
  split at hjoin
  · split at hjoin
    · exact h.readRelative hjoin
    · rw [readBehindScheme_scheme hjoin] at hcommon
      exact encoded_of_readBehindScheme hcommon hjoin
  · split at hjoin
    · cases hjoin
    · exact h.readRelative hjoin

/-! ## Writing -/

/-- A text that has no character of a kind ends where one that starts with such a character
begins. -/
theorem append_inj_at
    {p : Char → Bool}
    {front front' back back' : List Char}
    (hfront : ∀ c ∈ front, p c = false)
    (hfront' : ∀ c ∈ front', p c = false)
    (hback : ∀ c, back.head? = some c → p c = true)
    (hback' : ∀ c, back'.head? = some c → p c = true)
    (h : front ++ back = front' ++ back') :
    front = front' ∧ back = back' := by
  have hbefore := congrArg (before p) h
  rw [before_append hfront, before_append hfront', before_eq_nil hback, before_eq_nil hback',
    List.append_nil, List.append_nil] at hbefore
  rw [hbefore] at h
  exact ⟨hbefore, List.append_cancel_left h⟩

/-- The common schemes are made of small letters. -/
theorem isLower_of_isCommon
    {scheme : List Char}
    (hcommon : isCommon scheme = true) :
    ∀ c ∈ scheme, c.isLower = true := by
  rw [isCommon, defaultPort?, List.lookup_isSome_iff] at hcommon
  obtain ⟨entry, hentry, heq⟩ := hcommon
  have hall : ∀ entry ∈ commonSchemes, (entry.1.all Char.isLower) = true := by decide
  have hscheme := hall entry hentry
  rw [← beq_iff_eq.1 heq] at hscheme
  exact List.all_eq_true.1 hscheme

theorem mem_writePart
    {mark c : Char}
    {part : Option (List Char)}
    (h : c ∈ writePart mark part) :
    c = mark ∨ ∃ text ∈ part, c ∈ text := by
  cases part with
  | none => cases h
  | some text => exact (List.mem_cons.1 h).imp_right fun hc => ⟨text, rfl, hc⟩

theorem write_eq
    {u : Url}
    {a : Authority}
    (ha : u.authority = some a) :
    u.write = u.scheme ++ ':' :: '/' :: '/' :: (a.writeUser ++ a.writeHost ++
      (u.path ++ writePart '?' u.query ++ writePart '#' u.fragment)) := by
  rw [write, writeFront, ha]
  simp

namespace EncodedAuthority

variable {a : Authority} (h : EncodedAuthority a)
include h

/-- User and password are written without at signs, but for the one behind them. -/
theorem writeUser_cases :
    a.writeUser = [] ∨
      ∃ names, a.writeUser = names ++ ['@'] ∧ ∀ c ∈ names, inUser c = false ∨ c = ':' := by
  unfold Authority.writeUser
  split
  · refine Or.inr ⟨_, rfl, fun c hc => ?_⟩
    rcases List.mem_append.1 hc with hc | hc
    · exact Or.inl (h.user c hc)
    · split at hc
      · cases hc
      · rcases List.mem_cons.1 hc with rfl | hc
        · exact Or.inr rfl
        · exact Or.inl (h.password c hc)
  · exact Or.inl rfl

/-- Host and port are written with characters of hosts. -/
theorem isHostChar_of_mem_writeHost
    {c : Char}
    (hc : c ∈ a.writeHost) :
    isHostChar c = true := by
  obtain ⟨host, hhost, hchars⟩ := h.host
  rw [Authority.writeHost, hhost] at hc
  rcases List.mem_append.1 hc with hc | hc
  · exact hchars c hc
  · split at hc
    · rcases List.mem_cons.1 hc with rfl | hc
      · decide
      · exact isHostChar_of_mem_digitsOf hc
    · cases hc

/-- Neither a slash nor a space stands in an authority. -/
theorem plain_of_mem_write
    {c : Char}
    (hc : c ∈ a.writeUser ++ a.writeHost) :
    c ≠ '/' ∧ c ≠ ' ' := by
  rcases List.mem_append.1 hc with hc | hc
  · rcases h.writeUser_cases with hnone | ⟨names, hnames, hplain⟩
    · rw [hnone] at hc
      cases hc
    · rw [hnames, List.mem_append, List.mem_singleton] at hc
      rcases hc with hc | rfl
      · rcases hplain c hc with hset | rfl
        · refine ⟨?_, ?_⟩
          all_goals
            rintro rfl
            revert hset
            decide
        · decide
      · decide
  · have hchar := h.isHostChar_of_mem_writeHost hc
    refine ⟨?_, ?_⟩
    all_goals
      rintro rfl
      revert hchar
      decide

/-- The host is what stands behind the user. -/
theorem splitUser_write :
    (splitUser (a.writeUser ++ a.writeHost)).2 = a.writeHost := by
  have hat : '@' ∉ a.writeHost := by
    intro hmem
    have hchar := h.isHostChar_of_mem_writeHost hmem
    revert hchar
    decide
  rcases h.writeUser_cases with hnone | ⟨names, hnames, -⟩
  · rw [hnone, List.nil_append, splitUser_of_not_mem hat]
  · rw [hnames, List.append_assoc]
    exact splitUser_append_cons names hat

end EncodedAuthority

namespace Encoded

variable {u v : Url}

/-- A URL of the web can be asked for. -/
theorem host_isSome
    (h : Encoded u) :
    (u.authority.bind (·.host)).isSome = true := by
  obtain ⟨a, ha, hencoded⟩ := h.authority
  obtain ⟨host, hhost, -⟩ := hencoded.host
  rw [ha, Option.bind_some, hhost]
  rfl

/-- An encoded URL is written without spaces. -/
theorem space_not_mem_write
    (h : Encoded u) :
    ' ' ∉ u.write := by
  obtain ⟨a, ha, hencoded⟩ := h.authority
  rw [write_eq ha]
  simp only [List.mem_append, List.mem_cons, not_or]
  refine ⟨?_, by decide, by decide, by decide, ?_, ⟨?_, ?_⟩, ?_⟩
  · exact fun hmem => absurd (isLower_of_isCommon h.common _ hmem) (by decide)
  · rw [← not_or, ← List.mem_append]
    exact fun hmem => (hencoded.plain_of_mem_write hmem).2 rfl
  · exact fun hmem => absurd (h.path _ hmem) (by decide)
  · intro hmem
    rcases mem_writePart hmem with heq | ⟨q, hq, hc⟩
    · revert heq
      decide
    · exact absurd (h.query q hq _ hc) (by decide)
  · intro hmem
    rcases mem_writePart hmem with heq | ⟨f, hf, hc⟩
    · revert heq
      decide
    · exact absurd (h.fragment f hf _ hc) (by decide)

/-- Of encoded URLs with a scheme that are written alike, all is the same that stands behind the
user and in front of the fragment. -/
theorem write_inj
    (hu : Encoded u)
    (hv : Encoded v)
    (hscheme : u.scheme = v.scheme)
    (hwrite : u.write = v.write) :
    ∃ a b, u.authority = some a ∧ v.authority = some b ∧ a.writeHost = b.writeHost ∧
      u.path ++ writePart '?' u.query = v.path ++ writePart '?' v.query := by
  obtain ⟨a, ha, hencoded⟩ := hu.authority
  obtain ⟨b, hb, hencoded'⟩ := hv.authority
  rw [write_eq ha, write_eq hb, hscheme] at hwrite
  have hrest := List.append_cancel_left hwrite
  simp only [List.cons.injEq, true_and] at hrest
  have hslash : ∀ {w : Url} {c : Char}, Encoded w →
      (w.path ++ writePart '?' w.query ++ writePart '#' w.fragment).head? = some c →
      (c == '/') = true := by
    intro w c hw hc
    obtain ⟨rest, hpath⟩ := List.head?_eq_some_iff.1 hw.rooted
    rw [hpath] at hc
    exact beq_iff_eq.2 (Option.some.inj hc).symm
  have hplace : ∀ {c : Authority}, EncodedAuthority c →
      ∀ d ∈ c.writeUser ++ c.writeHost, (d == '/') = false :=
    fun hc d hd => beq_eq_false_iff_ne.2 (hc.plain_of_mem_write hd).1
  obtain ⟨hauthority, htail⟩ := append_inj_at (p := (· == '/')) (hplace hencoded)
    (hplace hencoded') (fun _ => hslash hu) (fun _ => hslash hv) hrest
  refine ⟨a, b, ha, hb, ?_, ?_⟩
  · rw [← hencoded.splitUser_write, hauthority, hencoded'.splitUser_write]
  · have hmark : ∀ (part : Option (List Char)) (c : Char), (writePart '#' part).head? = some c →
        (c == '#') = true := by
      intro part c hc
      cases part with
      | none => cases hc
      | some text => exact beq_iff_eq.2 (Option.some.inj hc).symm
    have hplain : ∀ {w : Url}, Encoded w → ∀ c ∈ w.path ++ writePart '?' w.query,
        (c == '#') = false := by
      intro w hw c hc
      rw [beq_eq_false_iff_ne]
      rintro rfl
      rcases List.mem_append.1 hc with hc | hc
      · exact absurd (hw.path _ hc) (by decide)
      · rcases mem_writePart hc with heq | ⟨q, hq, hmem⟩
        · revert heq
          decide
        · exact absurd (hw.query q hq _ hmem) (by decide)
    exact (append_inj_at (p := (· == '#')) (hplain hu) (hplain hv) (hmark u.fragment)
      (hmark v.fragment) htail).1

end Encoded

end Url
end LinkLedger
