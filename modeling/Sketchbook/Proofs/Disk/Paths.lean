import Sketchbook.Disk.Basic
import Sketchbook.Proofs.Failing

/-!
Names in directories. A path that is joined with a name leads where the path leads and then to the
name (`names_join`), so on a disk it stands for the entry of that name in the directory
(`locate_join`): a disk follows a path name by name (`locate_eq_ok`), and where it leads does not depend
on the disk (`target_of_locate`).
-/
namespace Sketchbook

namespace Path

/-- A name that can only lead from a directory to an entry in it. -/
structure IsName (name : String) : Prop where
  notEmpty : name.toList ≠ []
  noSlash : '/' ∉ name.toList
  noNul : '\x00' ∉ name.toList
  notDot : name ≠ "."
  notDots : name ≠ ".."

theorem pieces_ne_nil (cs : List Char) : pieces cs ≠ [] := by
  fun_cases pieces cs <;> simp

theorem pieces_append_slash (cs ds : List Char) :
    pieces (cs ++ '/' :: ds) = pieces cs ++ pieces ds := by
  fun_induction pieces cs with
  | case1 => simp [pieces]
  | case2 rest ih => simp [pieces, ih]
  | case3 c rest notSlash pieceless ih => exact absurd pieceless (pieces_ne_nil rest)
  | case4 c rest notSlash piece more split ih =>
    rw [split, List.cons_append] at ih
    rw [List.cons_append, pieces, ih]
    · rfl
    · exact notSlash

theorem pieces_of_noSlash {cs : List Char} (free : '/' ∉ cs) : pieces cs = [cs] := by
  fun_induction pieces cs with
  | case1 => rfl
  | case2 rest ih => simp at free
  | case3 c rest notSlash pieceless ih => exact absurd pieceless (pieces_ne_nil rest)
  | case4 c rest notSlash piece more split ih =>
    have whole := ih fun member => free (List.mem_cons_of_mem _ member)
    rw [split] at whole
    obtain ⟨rfl, rfl⟩ := List.cons.inj whole
    rfl

section Join

variable {p : Path} {name : String}

private theorem isAbsolute_of_isName (named : IsName name) : (Path.mk name).isAbsolute = false := by
  unfold isAbsolute
  cases chars : name.toList with
  | nil => rfl
  | cons c rest =>
    have other : c ≠ '/' := fun slash => named.noSlash (by simp [chars, slash])
    simp [other]

/-- The text of a joined path: a slash stands between the parts, unless there is no first part. -/
theorem toList_join (named : IsName name) :
    (p.join name).text.toList =
      p.text.toList ++ (if p.text.isEmpty || p.endsInSlash then [] else ['/']) ++ name.toList := by
  have relative := isAbsolute_of_isName named
  cases blank : p.text.isEmpty with
  | true =>
    have empty : p.text.toList = [] := by simpa [String.isEmpty_iff] using blank
    simp [join, blank, empty]
  | false => cases slash : p.endsInSlash <;> simp [join, relative, blank, slash, String.toList_append]

/-- A joined path leads to the name from where the path leads. -/
theorem names_join (named : IsName name) : (p.join name).names = p.names ++ [name] := by
  have last : [name.toList].filter (· ≠ []) = [name.toList] := by simp [named.notEmpty]
  unfold names
  rw [toList_join named]
  cases blank : p.text.isEmpty with
  | true =>
    have empty : p.text.toList = [] := by simpa [String.isEmpty_iff] using blank
    simp [empty, pieces, pieces_of_noSlash named.noSlash, named.notEmpty]
  | false =>
    cases slash : p.endsInSlash with
    | false =>
      have shape : p.text.toList ++ ['/'] ++ name.toList = p.text.toList ++ '/' :: name.toList := by
        simp
      simp only [Bool.or_self, Bool.false_eq_true, ↓reduceIte]
      rw [shape, pieces_append_slash, pieces_of_noSlash named.noSlash, List.filter_append, last]
      simp
    | true =>
      obtain ⟨front, shape⟩ := List.getLast?_eq_some_iff.mp (beq_iff_eq.mp slash)
      have joined : p.text.toList ++ [] ++ name.toList = front ++ '/' :: name.toList := by
        simp [shape]
      have own : pieces p.text.toList = pieces front ++ [[]] := by
        rw [shape, pieces_append_slash]
        rfl
      simp only [Bool.or_true, ↓reduceIte]
      rw [joined, pieces_append_slash, pieces_of_noSlash named.noSlash, List.filter_append, last, own]
      simp

theorem endsInSlash_join (named : IsName name) : (p.join name).endsInSlash = false := by
  obtain ⟨last, ends⟩ : ∃ c, name.toList.getLast? = some c :=
    Option.isSome_iff_exists.mp (by simp [named.notEmpty])
  have other : last ≠ '/' := fun slash => named.noSlash (slash ▸ List.mem_of_getLast? ends)
  unfold endsInSlash
  rw [toList_join named, List.getLast?_append, ends]
  simp [other]

theorem isAbsolute_join (named : IsName name) : (p.join name).isAbsolute = p.isAbsolute := by
  have relative := isAbsolute_of_isName named
  unfold isAbsolute at relative ⊢
  rw [toList_join named]
  cases chars : p.text.toList with
  | nil =>
    rw [String.toList_eq_nil_iff] at chars
    simpa [chars] using relative
  | cons c rest => simp

/-- The text of a joined path begins with that of the path. -/
theorem text_join (named : IsName name) : ∃ rest, (p.join name).text = p.text ++ rest := by
  refine ⟨.ofList ((if p.text.isEmpty || p.endsInSlash then [] else ['/']) ++ name.toList), ?_⟩
  apply String.toList_injective
  rw [toList_join named, String.toList_append, String.toList_ofList, List.append_assoc]

theorem isEmpty_join (named : IsName name) : (p.join name).text.isEmpty = false := by
  have longer : (p.join name).text.toList ≠ [] := by
    rw [toList_join named]
    simp [named.notEmpty]
  simpa [String.isEmpty_iff, ← String.toList_eq_nil_iff] using longer

end Join

theorem utf8ByteSize_join_le (p : Path) (name : String) :
    (p.join name).text.utf8ByteSize ≤ p.text.utf8ByteSize + 1 + name.utf8ByteSize := by
  have slash : "/".utf8ByteSize = 1 := rfl
  unfold join
  split
  · exact Nat.le_add_left ..
  split
  · rw [String.utf8ByteSize_append]
    omega
  · exact Nat.le_of_eq (by rw [String.utf8ByteSize_append, String.utf8ByteSize_append, slash])

end Path

namespace Disk

variable {d : Disk} {p : Path} {origin : Location} {name : String}

/-- A path leads somewhere if its text can stand for a path and each of its names leads on. -/
theorem locate_eq_ok : d.locate p = .ok origin ↔
    p.text.isEmpty = false ∧ '\x00' ∉ p.text.toList ∧ p.text.utf8ByteSize ≤ pathLimit ∧
      p.names.foldlM d.step (if p.isAbsolute then [] else d.workDir) = .ok origin := by
  constructor
  · intro found
    unfold locate at found
    split at found
    · cases found
    split at found
    · cases found
    split at found
    · cases found
    next there clean short =>
    exact ⟨by simpa using there, by simpa using clean, Nat.le_of_not_lt short, found⟩
  · rintro ⟨there, clean, short, walked⟩
    have noNul : p.text.contains '\x00' = false := by
      rw [String.contains_char_eq]
      simpa using clean
    rw [locate, if_neg (by simp [there]), if_neg (by simp [noNul]), if_neg (Nat.not_lt_of_le short),
      walked]

/-- A name leads on only from a directory. -/
theorem directory_of_step {reached : Location} (led : d.step origin name = .ok reached) :
    d.node? origin = some .directory := by
  unfold step at led
  split at led
  · cases led
  · cases led
  · assumption

/-- Where the names along a path lead on a disk. -/
def walk (d : Disk) (p : Path) : Except DiskError Location :=
  p.names.foldlM d.step (if p.isAbsolute then [] else d.workDir)

/-- A name in a directory that the names along a path lead to, if the whole is not too long. -/
theorem locate_join_of_walk (named : Path.IsName name) (clean : '\x00' ∉ p.text.toList)
    (walked : d.walk p = .ok origin) :
    d.locate (p.join name) =
      if pathLimit < (p.join name).text.utf8ByteSize then .error .nameTooLong
      else d.step origin name := by
  have noNul : (p.join name).text.contains '\x00' = false := by
    rw [String.contains_char_eq, Path.toList_join named]
    simp [clean, named.noNul]
  have further : (p.names ++ [name]).foldlM d.step (if p.isAbsolute then [] else d.workDir) =
      d.step origin name := by
    unfold walk at walked
    rw [List.foldlM_append, walked]
    cases next : d.step origin name <;> simp [bind, Except.bind, pure, Except.pure, next]
  rw [locate, if_neg (by simp [Path.isEmpty_join named]), if_neg (by simp [noNul]),
    Path.names_join named, Path.isAbsolute_join named, further]

/-- A name in a directory that can be located, if the whole is not too long. -/
theorem locate_join (named : Path.IsName name) (found : d.locate p = .ok origin) :
    d.locate (p.join name) =
      if pathLimit < (p.join name).text.utf8ByteSize then .error .nameTooLong
      else d.step origin name := by
  obtain ⟨_, clean, _, walked⟩ := locate_eq_ok.mp found
  exact locate_join_of_walk named clean walked

theorem step_directory (named : Path.IsName name) (there : d.node? origin = some .directory) :
    d.step origin name =
      if nameLimit < name.utf8ByteSize then .error .nameTooLong else .ok (origin ++ [name]) := by
  rw [step, there]
  simp [named.notDot, named.notDots]

/-- A joined path leads to a name in the directory that the names along the path lead to. -/
theorem walk_of_locate_join {place : Location} (named : Path.IsName name)
    (led : d.locate (p.join name) = .ok place) :
    ∃ origin, d.walk p = .ok origin ∧ d.node? origin = some .directory ∧
      place = origin ++ [name] := by
  obtain ⟨_, _, _, walked⟩ := locate_eq_ok.mp led
  rw [Path.names_join named, Path.isAbsolute_join named, List.foldlM_append] at walked
  obtain ⟨origin, reached, further⟩ := bind_eq_ok.mp walked
  rw [List.foldlM_cons] at further
  obtain ⟨last, step, same⟩ := bind_eq_ok.mp further
  obtain rfl := Except.ok.inj same
  have there := directory_of_step step
  rw [step_directory named there] at step
  refine ⟨origin, reached, there, ?_⟩
  split at step
  · cases step
  · exact (Except.ok.inj step).symm

/-- What can be located has no NUL in any part. -/
theorem noNul_of_locate_join {place : Location} (named : Path.IsName name)
    (led : d.locate (p.join name) = .ok place) : '\x00' ∉ p.text.toList := by
  obtain ⟨_, clean, _⟩ := locate_eq_ok.mp led
  obtain ⟨rest, text⟩ := Path.text_join (p := p) named
  rw [text, String.toList_append] at clean
  exact fun member => clean (List.mem_append_left _ member)

/-- What leads to a name leads through the directory of that name. -/
theorem of_locate_join {place : Location} (named : Path.IsName name)
    (there : p.text.isEmpty = false) (led : d.locate (p.join name) = .ok place) :
    ∃ origin, d.locate p = .ok origin ∧ d.node? origin = some .directory ∧
      place = origin ++ [name] := by
  obtain ⟨origin, walked, stands, shape⟩ := walk_of_locate_join named led
  obtain ⟨_, _, short, _⟩ := locate_eq_ok.mp led
  obtain ⟨rest, text⟩ := Path.text_join (p := p) named
  rw [text, String.utf8ByteSize_append] at short
  have clean := noNul_of_locate_join named led
  exact ⟨origin, locate_eq_ok.mpr ⟨there, clean, by omega, walked⟩, stands, shape⟩

/-- Where a name leads from a directory, if it is not too long. -/
def follow (origin : Location) (name : String) : Location :=
  if name = "." then origin else if name = ".." then origin.dropLast else origin ++ [name]

/-- Where a path leads, if it leads anywhere: seen from a directory, on a disk that has every directory
on the way. -/
def target (workDir : Location) (p : Path) : Location :=
  p.names.foldl follow (if p.isAbsolute then [] else workDir)

theorem target_join (workDir : Location) (named : Path.IsName name) :
    target workDir (p.join name) = target workDir p ++ [name] := by
  rw [target, Path.names_join named, Path.isAbsolute_join named, List.foldl_append]
  simp [target, follow, named.notDot, named.notDots]

private theorem follow_of_step {reached : Location} (led : d.step origin name = .ok reached) :
    reached = follow origin name := by
  have there := directory_of_step led
  simp only [step, there] at led
  unfold follow
  split at led
  · next here => rw [if_pos here, ← Except.ok.inj led]
  · next away =>
    rw [if_neg away]
    split at led
    · next up => rw [if_pos up, ← Except.ok.inj led]
    · next down =>
      rw [if_neg down]
      split at led
      · cases led
      · exact (Except.ok.inj led).symm

private theorem foldl_follow_of_foldlM {names : List String} {place : Location}
    (led : names.foldlM d.step origin = .ok place) : place = names.foldl follow origin := by
  induction names generalizing origin with
  | nil => exact (Except.ok.inj led).symm
  | cons name rest ih =>
    rw [List.foldlM_cons] at led
    obtain ⟨reached, first, later⟩ := bind_eq_ok.mp led
    rw [List.foldl_cons, ← follow_of_step first]
    exact ih later

/-- A path that leads somewhere leads to its target, whatever else is on the disk. -/
theorem target_of_locate {place : Location} (led : d.locate p = .ok place) :
    place = target d.workDir p := by
  obtain ⟨_, _, _, walked⟩ := locate_eq_ok.mp led
  exact foldl_follow_of_foldlM walked

theorem lookup_directory (found : d.locate p = .ok origin)
    (there : d.node? origin = some .directory) : d.lookup p = .ok .directory := by
  simp [lookup, found, there, bind, Except.bind]

theorem isDirectory_iff :
    d.isDirectory p = true ↔ ∃ place, d.locate p = .ok place ∧ d.node? place = some .directory := by
  unfold isDirectory lookup
  cases found : d.locate p with
  | error e => simp [bind, Except.bind]
  | ok place =>
    cases stands : d.node? place with
    | none => simp [bind, Except.bind, stands]
    | some node =>
      cases node with
      | directory => simp [bind, Except.bind, stands]
      | file content =>
        cases slash : p.endsInSlash <;> simp [bind, Except.bind, stands]

end Disk

end Sketchbook
