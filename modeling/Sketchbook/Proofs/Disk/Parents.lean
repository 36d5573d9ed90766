import Sketchbook.Proofs.Disk.Files
import Sketchbook.Proofs.Disk.Paths

/-!
The directory around a path. A path leads through its parent (`isDirectory_parent`), so nothing can be
found in a directory that could not be made (`isDirectory_of_createDirectories`).
-/
namespace Sketchbook

namespace Path

/-! ### Names at the end of a path -/

private theorem names_append_piece {piece : List Char} (free : '/' ∉ piece) (cs : List Char) :
    (Path.mk (.ofList (cs ++ '/' :: piece))).names =
      (Path.mk (.ofList cs)).names ++ if piece = [] then [] else [.ofList piece] := by
  simp only [names, String.toList_ofList, pieces_append_slash, pieces_of_noSlash free,
    List.filter_append, List.map_append]
  by_cases blank : piece = [] <;> simp [blank]

private theorem names_append_slash (cs : List Char) :
    (Path.mk (.ofList (cs ++ ['/']))).names = (Path.mk (.ofList cs)).names := by
  rw [names_append_piece (by simp) cs]
  simp

/-- What is dropped from the end of a path is text without names other than dots. -/
private theorem names_dropSlashes (cs : List Char) : dropSlashes cs <:+ cs ∧
    ∃ dots, (Path.mk (.ofList cs.reverse)).names =
      (Path.mk (.ofList (dropSlashes cs).reverse)).names ++ dots := by
  fun_induction dropSlashes cs with
  | case1 c rest ih =>
    obtain ⟨suffix, dots, same⟩ := ih
    refine ⟨suffix.trans (List.suffix_cons ..), dots, ?_⟩
    rw [← same, List.reverse_cons (a := '/'), names_append_slash]
  | case2 c rest ih =>
    obtain ⟨suffix, dots, same⟩ := ih
    refine ⟨suffix.trans (List.suffix_cons ..), dots ++ ["."], ?_⟩
    have shape : ('.' :: '/' :: c :: rest).reverse = (c :: rest).reverse ++ '/' :: ['.'] := by simp
    rw [← List.append_assoc, ← same, List.reverse_cons (a := '/'), names_append_slash, shape,
      names_append_piece (by decide)]
    rfl
  | case3 => exact ⟨List.suffix_cons .., ["."], by decide⟩
  | case4 cs => exact ⟨List.suffix_refl _, [], by simp⟩

private theorem dropSlashes_ne (cs : List Char) (c : Char) (rest : List Char) :
    dropSlashes cs ≠ '/' :: c :: rest := by
  fun_induction dropSlashes cs with
  | case1 _ _ ih => exact ih
  | case2 _ _ ih => exact ih
  | case3 => simp
  | case4 cs notSlash _ _ =>
    rintro rfl
    exact notSlash c rest rfl

/-- A path that ends in a name: what stands before the name, without slashes at its end, is the
parent. -/
private theorem parent?_cases {p dir : Path} (around : p.parent? = some dir)
    (there : dir.text.isEmpty = false) : ∃ (last before : List Char),
      last ≠ [] ∧ '/' ∉ last ∧ dropSlashes p.text.toList.reverse = last ++ '/' :: before ∧
        dir = ⟨.ofList (dropSlashes ('/' :: before)).reverse⟩ := by
  unfold parent? at around
  generalize stripped : dropSlashes p.text.toList.reverse = cs at around
  split at around
  · cases around
  · cases around
  · next notEmpty notRoot =>
    obtain rfl := Option.some.inj around
    have whole : cs.takeWhile (· ≠ '/') ++ cs.dropWhile (· ≠ '/') = cs :=
      List.takeWhile_append_dropWhile
    have free : '/' ∉ cs.takeWhile (· ≠ '/') := by
      intro member
      simpa using List.all_eq_true.mp List.all_takeWhile '/' member
    cases outer : cs.dropWhile (· ≠ '/') with
    | nil =>
      rw [outer] at there
      simp [dropSlashes] at there
    | cons slash before =>
      have isSlash : slash = '/' := by
        have first := List.head?_dropWhile_not (fun c => decide (c ≠ '/')) cs
        rw [outer] at first
        simpa using first
      rw [outer, isSlash] at whole
      refine ⟨cs.takeWhile (· ≠ '/'), before, fun empty => ?_, free, whole.symm, by rw [isSlash]⟩
      rw [empty, List.nil_append] at whole
      cases before with
      | nil => exact notRoot whole.symm
      | cons c rest => exact dropSlashes_ne _ c rest (stripped.trans whole.symm)

/-- The text of a path begins with that of its parent. -/
theorem text_parent {p dir : Path} (around : p.parent? = some dir)
    (there : dir.text.isEmpty = false) : ∃ rest, p.text = dir.text ++ rest := by
  obtain ⟨last, before, _, _, stripped, rfl⟩ := parent?_cases around there
  have suffix : dropSlashes ('/' :: before) <:+ p.text.toList.reverse := by
    refine (names_dropSlashes _).1.trans ?_
    exact List.IsSuffix.trans ⟨last, stripped.symm⟩ (names_dropSlashes _).1
  obtain ⟨rest, whole⟩ := List.reverse_prefix.mpr suffix
  rw [List.reverse_reverse] at whole
  exact ⟨.ofList rest, String.toList_injective (by simp [← whole])⟩

/-- The names along a path begin with those along its parent, which are fewer. -/
theorem names_parent {p dir : Path} (around : p.parent? = some dir)
    (there : dir.text.isEmpty = false) : ∃ name more, p.names = dir.names ++ name :: more := by
  obtain ⟨last, before, nonempty, free, stripped, rfl⟩ := parent?_cases around there
  obtain ⟨_, dots, own⟩ := names_dropSlashes p.text.toList.reverse
  obtain ⟨_, more, outer⟩ := names_dropSlashes ('/' :: before)
  have shape : (last ++ '/' :: before).reverse = before.reverse ++ '/' :: last.reverse := by simp
  rw [List.reverse_reverse, String.ofList_toList, stripped, shape, names_append_piece (by simpa),
    if_neg (by simpa)] at own
  rw [List.reverse_cons, names_append_slash] at outer
  rw [own, outer]
  cases more with
  | nil => exact ⟨.ofList last.reverse, dots, by simp⟩
  | cons name more => exact ⟨name, more ++ .ofList last.reverse :: dots, by simp⟩

end Path

namespace Disk

variable {d changed : Disk} {p dir : Path} {place : Location}

/-! ### Paths lead through their parents -/

/-- What a path leads to, it reaches through the directory that is its parent. -/
theorem isDirectory_parent (around : p.parent? = some dir) (there : dir.text.isEmpty = false)
    (found : d.locate p = .ok place) : d.isDirectory dir = true := by
  obtain ⟨_, clean, short, walked⟩ := locate_eq_ok.mp found
  obtain ⟨rest, text⟩ := Path.text_parent around there
  obtain ⟨name, more, names⟩ := Path.names_parent around there
  rw [text, String.toList_append] at clean
  rw [text, String.utf8ByteSize_append] at short
  have sameRoot : p.isAbsolute = dir.isAbsolute := by
    unfold Path.isAbsolute
    rw [text, String.toList_append]
    cases chars : dir.text.toList with
    | nil =>
      rw [String.toList_eq_nil_iff] at chars
      simp [chars] at there
    | cons c _ => rfl
  rw [names, List.foldlM_append, sameRoot] at walked
  obtain ⟨outer, reached, further⟩ := bind_eq_ok.mp walked
  rw [List.foldlM_cons] at further
  obtain ⟨next, step, _⟩ := bind_eq_ok.mp further
  refine isDirectory_iff.mpr ⟨outer, locate_eq_ok.mpr ⟨there, ?_, ?_, reached⟩, directory_of_step step⟩
  · exact fun member => clean (List.mem_append_left _ member)
  · omega

/-! ### Directories that cannot be made -/

/-- A directory that could not be made is not there, if that follows from the one around it that could
not be made either. -/
private theorem isDirectory_of_createChain {outer : List Path} {e : DiskError}
    (inside : ∀ e middle, d.createChain outer = (.error e, middle) → middle.isDirectory p = false)
    (failed : d.createChain (p :: outer) = (.error e, changed)) : changed.isDirectory p = false := by
  rw [createChain] at failed
  split at failed
  · cases failed
  split at failed
  · cases failed
  · split at failed
    · next e middle refused =>
      obtain ⟨_, rfl⟩ := Prod.mk.inj failed
      exact inside e middle refused
    · split at failed
      · cases failed
      · split at failed
        · cases failed
        · next absent =>
          obtain ⟨_, rfl⟩ := Prod.mk.inj failed
          exact Bool.eq_false_iff.mpr absent
  · split at failed
    · cases failed
    · next absent =>
      obtain ⟨_, rfl⟩ := Prod.mk.inj failed
      exact Bool.eq_false_iff.mpr absent

private theorem isDirectory_of_ancestors (fuel : Nat) {e : DiskError}
    (failed : d.createChain (Path.ancestors.go fuel p) = (.error e, changed)) :
    changed.isDirectory p = false := by
  induction fuel generalizing p changed e with
  | zero => cases failed
  | succ more ih =>
    rw [Path.ancestors.go] at failed
    split at failed
    · exact isDirectory_of_createChain (fun _ _ refused => by cases refused) failed
    · next dir around =>
      refine isDirectory_of_createChain (fun e middle refused => ?_) failed
      have absent := ih refused
      cases blank : dir.text.isEmpty with
      | true =>
        -- The working directory is never made.
        cases more with
        | zero => cases refused
        | succ more =>
          rw [Path.ancestors.go] at refused
          split at refused <;>
          · rw [createChain, if_pos blank] at refused
            cases refused
      | false =>
        rw [Bool.eq_false_iff]
        intro there
        obtain ⟨place, found, _⟩ := isDirectory_iff.mp there
        rw [isDirectory_parent around blank found] at absent
        cases absent

/-- Directories are made, or else the innermost is not there in the end. -/
theorem isDirectory_of_createDirectories {e : DiskError}
    (failed : d.createDirectories p = (.error e, changed)) : changed.isDirectory p = false :=
  isDirectory_of_ancestors _ failed

end Disk

end Sketchbook
