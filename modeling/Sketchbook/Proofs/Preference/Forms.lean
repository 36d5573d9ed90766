import Mathlib.Data.List.Induction
import Mathlib.Data.List.Nodup
import Mathlib.Data.List.TakeWhile
import Sketchbook.Preference.Basic
import Sketchbook.Proofs.Json.Texts

/-!
The texts of preferences. Each preference has a form (`Form`), its setter writes only texts of that form,
and what is written is read back: lists of menus (`Json.readAll_texts`) and of fonts
(`splitFonts_join`). Preferences whose texts all have their forms are well formed
(`wellFormed_of_forms`).
-/
namespace Sketchbook

namespace Text

variable {separator : Char} {names : List String}

/-- Splitting undoes joining. -/
theorem split_join (nonempty : names ≠ []) (free : ∀ name ∈ names, separator ∉ name.toList) :
    split separator (join separator names) = names := by
  have pieces : splitChars separator (joinChars separator (names.map String.toList)) =
      names.map String.toList := by
    apply splitChars_joinChars
    · simpa using nonempty
    · intro piece member
      obtain ⟨name, inside, rfl⟩ := List.mem_map.mp member
      exact free name inside
  rw [split, join, String.toList_ofList, pieces, List.map_map]
  simp

/-- What a text is split into is free of the separator. -/
theorem not_mem_of_mem_split {s piece : String} (member : piece ∈ split separator s) :
    separator ∉ piece.toList := by
  obtain ⟨chars, inside, rfl⟩ := List.mem_map.mp member
  rw [String.toList_ofList]
  exact not_mem_of_mem_splitChars inside

/-- The parts of a text between its separators: they have no separator in them, and the text is what they
are joined to. -/
structure PartedBy (separator : Char) (s : String) (parts : List String) : Prop where
  nonempty : parts ≠ []
  free : ∀ part ∈ parts, separator ∉ part.toList
  joined : join separator parts = s

/-- A text has one list of parts, which it is split into. -/
theorem partedBy_iff {s : String} {parts : List String} :
    PartedBy separator s parts ↔ parts = split separator s := by
  constructor
  · rintro ⟨nonempty, free, rfl⟩
    exact (split_join nonempty free).symm
  · rintro rfl
    constructor
    case nonempty => simpa [split] using splitChars_ne_nil separator s.toList
    case free => exact fun part member => not_mem_of_mem_split member
    case joined =>
      have chars : (split separator s).map String.toList = splitChars separator s.toList := by
        rw [split, List.map_map]
        exact List.map_id'' (fun _ => String.toList_ofList) _
      rw [join, chars, joinChars_splitChars, String.ofList_toList]

/-- Only a text of blanks is trimmed to nothing. -/
theorem trim_eq_empty_iff {s : String} : trim s = "" ↔ s.toList.all isBlank = true := by
  rw [trim, ← String.toList_inj, String.toList_ofList, trimChars]
  simp only [String.toList_empty, List.reverse_eq_nil_iff, List.dropWhile_eq_nil_iff,
    List.mem_reverse, List.all_eq_true]
  constructor
  · intro trimmed
    cases left : s.toList.dropWhile isBlank with
    | nil => exact List.dropWhile_eq_nil_iff.mp left
    | cons c rest =>
      have visible := List.head?_dropWhile_not isBlank s.toList
      rw [left] at visible trimmed
      have blank := trimmed c (by simp)
      simp [blank] at visible
  · intro blank c inside
    exact blank c ((List.dropWhile_sublist _).mem inside)

end Text

/-! ### Texts in order of their first appearance -/

/-- Texts are those of a list, each once, in the order in which they first appear there. -/
def FirstAppearances (texts kept : List String) : Prop :=
  (∀ text, text ∈ kept ↔ text ∈ texts) ∧
    kept.Pairwise fun one other => texts.idxOf one < texts.idxOf other

private theorem eraseDups_concat (texts : List String) (last : String) :
    (texts ++ [last]).eraseDups =
      if last ∈ texts then texts.eraseDups else texts.eraseDups ++ [last] := by
  rw [List.eraseDups_append]
  by_cases known : last ∈ texts <;> simp [List.removeAll, List.eraseDups_cons, known]

/-- A list without what repeats in it has each text where it first appears. -/
theorem firstAppearances_eraseDups (texts : List String) :
    FirstAppearances texts texts.eraseDups := by
  refine ⟨fun text => List.mem_eraseDups, ?_⟩
  induction texts using List.reverseRecOn with
  | nil => exact List.Pairwise.nil
  | append_singleton texts last ih =>
    -- The places of the texts before the last one are as they were.
    have before : texts.eraseDups.Pairwise fun one other =>
        (texts ++ [last]).idxOf one < (texts ++ [last]).idxOf other := by
      refine ih.imp_of_mem fun {one other} first second order => ?_
      rw [List.idxOf_append_of_mem (List.mem_eraseDups.mp first),
        List.idxOf_append_of_mem (List.mem_eraseDups.mp second)]
      exact order
    rw [eraseDups_concat]
    split
    · exact before
    · next fresh =>
      refine List.pairwise_append.mpr ⟨before, List.pairwise_singleton _ _, ?_⟩
      intro one first other second
      obtain rfl := List.mem_singleton.mp second
      have inside := List.mem_eraseDups.mp first
      rw [List.idxOf_append_of_mem inside, List.idxOf_append_of_notMem fresh]
      exact Nat.lt_of_lt_of_le (List.idxOf_lt_length_of_mem inside) (Nat.le_add_right _ _)

/-- No text comes twice in order of first appearance. -/
theorem FirstAppearances.nodup {texts kept : List String} (first : FirstAppearances texts kept) :
    kept.Nodup :=
  first.2.imp fun order same => absurd order (by simp [same])

namespace Preferences

variable {names : List String} {name text : String}

/-! ### Fonts -/

/-- A text may be the name of a font: it is not blank, and free of the separator. -/
def FontName (name : String) : Prop := Text.trim name ≠ "" ∧ fontSeparator ∉ name.toList

theorem fontFault?_eq_none_iff : fontFault? name = none ↔ FontName name := by
  unfold fontFault? FontName
  rw [ne_eq, Text.trim_eq_empty_iff]
  split
  · next blank => simp [blank]
  · next visible =>
    split
    · next divided => simp [divided]
    · next free => simp [visible, free]

/-- A piece of a list of fonts: it is not empty, and free of the separator. -/
def FontPiece (name : String) : Prop := name ≠ "" ∧ fontSeparator ∉ name.toList

theorem FontName.piece (valid : FontName name) : FontPiece name := by
  refine ⟨?_, valid.2⟩
  rintro rfl
  exact valid.1 rfl

/-- The fonts in a text are pieces, whoever wrote the text. -/
theorem piece_of_mem_splitFonts (member : name ∈ splitFonts text) : FontPiece name := by
  obtain ⟨inside, nonempty⟩ := List.mem_filter.mp member
  exact ⟨of_decide_eq_true nonempty, Text.not_mem_of_mem_split inside⟩

/-- Pieces are read back from the text that joins them. -/
theorem splitFonts_join (pieces : ∀ name ∈ names, FontPiece name) :
    splitFonts (Text.join fontSeparator names) = names := by
  cases names with
  | nil => rfl
  | cons name rest =>
    rw [splitFonts, Text.split_join (by simp) fun other member => (pieces other member).2,
      List.filter_eq_self]
    intro other member
    exact decide_eq_true (pieces other member).1

/-! ### Forms -/

/-- The form of the text of a preference. -/
def Form : PreferenceKey → String → Prop
  | .openMenus, text => ∃ menus, Json.readAll Json.expectTexts text = .ok menus
  | .currentDocument, text => ∃ id, DocumentId.parse text = .ok id
  | .fonts, text => ∃ names : List String, text = Text.join fontSeparator names ∧ names.Nodup ∧
      ∀ name ∈ names, fontFault? name = none
  | .language, _ => True
  | .fontSwitch, text => text = "true" ∨ text = "false"

theorem form_menus (menus : List String) :
    Form .openMenus (Json.compact (.list (menus.map .text))) :=
  ⟨menus, Json.readAll_texts menus⟩

theorem form_currentDocument (id : DocumentId) : Form .currentDocument id.text :=
  ⟨id, DocumentId.parse_text id⟩

theorem form_fontSwitch (on : Bool) : Form .fontSwitch (if on then "true" else "false") := by
  cases on with
  | true => exact Or.inl rfl
  | false => exact Or.inr rfl

/-- Names of fonts that have no fault are set without those that are repeated. -/
theorem form_fonts (valid : names.findSome? fontFault? = none) :
    Form .fonts (Text.join fontSeparator names.eraseDups) := by
  refine ⟨names.eraseDups, rfl, (firstAppearances_eraseDups names).nodup, ?_⟩
  intro name member
  exact List.findSome?_eq_none_iff.mp valid name (List.mem_eraseDups.mp member)

/-- A font that is not there yet may be added. -/
theorem form_addFont (valid : fontFault? name = none) (held : ∀ name ∈ names, fontFault? name = none)
    (distinct : names.Nodup) (fresh : name ∉ names) :
    Form .fonts (Text.join fontSeparator (names ++ [name])) := by
  refine ⟨names ++ [name], rfl, ?_, ?_⟩
  · exact List.nodup_append.mpr ⟨distinct, List.nodup_singleton name, by
      intro other member last single same
      rw [List.mem_singleton.mp single] at same
      exact fresh (same ▸ member)⟩
  · intro other member
    rcases List.mem_append.mp member with inside | last
    · exact held other inside
    · rw [List.mem_singleton.mp last]
      exact valid

/-! ### Preferences whose texts have their forms -/

variable {σ : Type} [PreferenceStore σ]

/-- Every preference can be read as what it stands for. -/
structure WellFormed (p : Preferences σ) : Prop where
  menus : ∃ menus, p.openMenus = .ok menus
  /-- The text of the fonts is what their names are joined to. -/
  joined : ∀ text, p.get .fonts = some text → text = Text.join fontSeparator p.fonts
  distinct : p.fonts.Nodup
  names : ∀ name ∈ p.fonts, Text.trim name ≠ "" ∧ fontSeparator ∉ name.toList
  current : ∀ text, p.get .currentDocument = some text → ∃ id, DocumentId.parse text = .ok id
  switch : ∀ text, p.get .fontSwitch = some text → text = "true" ∨ text = "false"

/-- The fonts whose names a text joins. -/
theorem fonts_of_form {p : Preferences σ} (forms : ∀ text, p.get .fonts = some text → Form .fonts text) :
    (∀ text, p.get .fonts = some text → text = Text.join fontSeparator p.fonts) ∧ p.fonts.Nodup ∧
      ∀ name ∈ p.fonts, fontFault? name = none := by
  unfold fonts
  cases held : p.get .fonts with
  | none => exact ⟨nofun, List.nodup_nil, nofun⟩
  | some text =>
    obtain ⟨names, rfl, distinct, valid⟩ := forms text held
    have pieces := fun name member => (fontFault?_eq_none_iff.mp (valid name member)).piece
    simp only [splitFonts_join pieces, Option.some.injEq]
    exact ⟨fun text same => same.symm, distinct, valid⟩

theorem wellFormed_of_forms {p : Preferences σ}
    (forms : ∀ key text, p.get key = some text → Form key text) : p.WellFormed := by
  obtain ⟨joined, distinct, valid⟩ := fonts_of_form (forms .fonts)
  refine ⟨?_, joined, distinct, fun name member => fontFault?_eq_none_iff.mp (valid name member),
    forms .currentDocument, forms .fontSwitch⟩
  unfold openMenus
  cases held : p.get .openMenus with
  | none => exact ⟨[], rfl⟩
  | some text =>
    obtain ⟨menus, read⟩ := forms .openMenus text held
    exact ⟨menus, congrArg (Except.mapError StoreError.malformedMenuKeys) read⟩

end Preferences

namespace PreferenceKey

/-- Each preference has a name of its own in the store. -/
theorem item_injective {one other : PreferenceKey} (same : one.item = other.item) : one = other := by
  cases one <;> cases other <;> first | rfl | exact absurd same (by decide)

/-- A preference is found by either of its names. -/
theorem parse_eq_ok {raw : String} {key : PreferenceKey} :
    parse raw = .ok key ↔ key.name = raw ∨ key.item = raw := by
  constructor
  · intro parsed
    unfold parse at parsed
    split at parsed
    · next found known =>
      obtain rfl := Except.ok.inj parsed
      have own := List.find?_some known
      exact of_decide_eq_true own
    · cases parsed
  · rintro (rfl | rfl) <;> cases key <;> rfl

end PreferenceKey

end Sketchbook
