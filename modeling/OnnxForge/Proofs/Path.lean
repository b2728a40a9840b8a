import OnnxForge.Path

/-!
# Files in a directory

A path that ends in the name of a file comes apart at its last slash. A file name that is
joined to a directory is found there again, also with another extension. Names of idle steps
and of steps up are none of files.
-/

namespace OnnxForge.Path

/-! ## Parts -/

theorem parts_ne_nil (cs : List Char) : parts cs ≠ [] := by
  cases cs with
  | nil => exact List.cons_ne_nil _ _
  | cons c rest =>
      rw [parts]
      split
      · exact List.cons_ne_nil _ _
      · split <;> exact List.cons_ne_nil _ _

theorem parts_eq_singleton {cs : List Char} (free : '/' ∉ cs) : parts cs = [cs] := by
  induction cs with
  | nil => rfl
  | cons c rest ih =>
      have ⟨notHere, freeRest⟩ := not_or.mp (free ∘ List.mem_cons.mpr)
      rw [parts, if_neg (Ne.symm notHere), ih freeRest]

theorem parts_append (before after : List Char) :
    parts (before ++ '/' :: after) = parts before ++ parts after := by
  induction before with
  | nil => rfl
  | cons c rest ih =>
      rw [List.cons_append, parts, parts, ih]
      split
      · rfl
      · cases found : parts rest with
        | nil => exact (parts_ne_nil rest found).elim
        | cons first more => rfl

/-- The parts with a slash after each are the whole with one more slash. -/
theorem flatMap_parts (cs : List Char) :
    (parts cs).flatMap (· ++ ['/']) = cs ++ ['/'] := by
  induction cs with
  | nil => rfl
  | cons c rest ih =>
      rw [parts]
      split
      next slash => simp [slash, ih]
      next =>
        cases found : parts rest with
        | nil => exact (parts_ne_nil rest found).elim
        | cons first more =>
            rw [found] at ih
            simpa using ih

theorem free_of_mem_parts {cs part : List Char} (member : part ∈ parts cs) : '/' ∉ part := by
  induction cs generalizing part with
  | nil =>
      rw [List.mem_singleton.mp member]
      exact List.not_mem_nil
  | cons c rest ih =>
      rw [parts] at member
      split at member
      next =>
        rcases List.mem_cons.mp member with rfl | later
        · exact List.not_mem_nil
        · exact ih later
      next notSlash =>
        cases found : parts rest with
        | nil => exact (parts_ne_nil rest found).elim
        | cons first more =>
            rw [found] at member ih
            rcases List.mem_cons.mp member with rfl | later
            · have freeFirst := ih List.mem_cons_self
              exact fun slash => (List.mem_cons.mp slash).elim (Ne.symm notSlash) freeFirst
            · exact ih (List.mem_cons_of_mem _ later)

/-! ## File names -/

/-- Whether a text names a file, and takes no step or a step up. -/
structure IsName (name : String) : Prop where
  free : '/' ∉ name.toList
  active : isIdle name.toList = false
  notUp : name.toList ≠ ['.', '.']

/-- Whether a text ends in a slash, or is empty. -/
def Slashed (base : String) : Prop :=
  base = "" ∨ ∃ cs, base.toList = cs ++ ['/']

theorem slashed_flatMap (steps : List (List Char)) :
    Slashed (String.ofList (steps.flatMap (· ++ ['/']))) := by
  rcases List.eq_nil_or_concat steps with rfl | ⟨before, last, rfl⟩
  · exact .inl rfl
  · refine .inr ⟨before.flatMap (· ++ ['/']) ++ last, ?_⟩
    rw [String.toList_ofList, List.concat_eq_append, List.flatMap_append, List.flatMap_singleton,
      List.append_assoc]

/-- The last part of a path stands after its last slash. -/
theorem exists_parts {base name : String} (slashed : Slashed base) (free : '/' ∉ name.toList) :
    ∃ before, parts (base ++ name).toList = before ++ [name.toList] ∧
      before.flatMap (· ++ ['/']) = base.toList := by
  have single := parts_eq_singleton free
  rcases slashed with rfl | ⟨cs, text⟩
  · exact ⟨[], by simpa using single, rfl⟩
  · refine ⟨parts cs, ?_, by rw [flatMap_parts, text]⟩
    rw [String.toList_append, text, List.append_assoc, List.singleton_append, parts_append, single]

/-- A path that ends in the name of a file comes apart before it. -/
theorem split?_append {base name : String} (slashed : Slashed base) (isName : IsName name) :
    split? (base ++ name) = some (base, name) := by
  rcases exists_parts slashed isName.free with ⟨before, apart, whole⟩
  rw [split?, apart, List.reverse_concat, List.dropWhile_cons_of_neg (by simp [isName.active])]
  split
  next none => cases none
  next up => exact (isName.notUp (List.cons.inj up).1).elim
  next found _ same =>
    obtain ⟨rfl, rfl⟩ := List.cons.inj same
    rw [List.reverse_reverse, whole, String.ofList_toList, String.ofList_toList]

/-- A path that ends in a step up does not come apart. -/
theorem split?_up {base : String} (slashed : Slashed base) : split? (base ++ "..") = none := by
  have free : '/' ∉ "..".toList := by decide
  rcases exists_parts slashed free with ⟨before, apart, _⟩
  have up : "..".toList = ['.', '.'] := rfl
  rw [split?, apart, List.reverse_concat, up, List.dropWhile_cons_of_neg (by decide)]
  rfl

/-- What a path comes apart into. -/
theorem of_split?_eq_some {path base name : String} (apart : split? path = some (base, name)) :
    Slashed base ∧ IsName name ∧
      (base.toList ++ name.toList ++ ['/']) <+: path.toList ++ ['/'] := by
  rw [split?] at apart
  split at apart
  next => cases apart
  next => cases apart
  next last before notUp active =>
    cases apart
    have kept : (parts path.toList).reverse =
        (parts path.toList).reverse.takeWhile isIdle ++ last :: before := by
      rw [← active, List.takeWhile_append_dropWhile]
    have order := congrArg List.reverse kept
    rw [List.reverse_reverse, List.reverse_append, List.reverse_cons] at order
    have member : last ∈ parts path.toList := by
      rw [order]
      simp
    have notIdle : isIdle last = false := by
      have head := List.head?_dropWhile_not isIdle (parts path.toList).reverse
      rw [active] at head
      simpa using head
    refine ⟨slashed_flatMap _, ⟨?_, ?_, ?_⟩, ?_⟩
    · rw [String.toList_ofList]
      exact free_of_mem_parts member
    · rw [String.toList_ofList]
      exact notIdle
    · rw [String.toList_ofList]
      exact notUp
    · rw [← flatMap_parts path.toList, order, String.toList_ofList, String.toList_ofList]
      simp only [List.flatMap_append, List.flatMap_singleton, List.append_assoc]
      exact ⟨((parts path.toList).reverse.takeWhile isIdle).reverse.flatMap (· ++ ['/']), by simp⟩

/-! ## Names below a directory -/

theorem slashed_join (directory : String) : Slashed (join directory "") := by
  have relative : "".startsWith "/" = false := by decide
  rw [join, if_neg (by simp [relative]), String.append_empty]
  split
  next ends =>
    rcases Bool.or_eq_true_iff.mp ends with slash | empty
    · rw [← String.endsWith_toSlice, String.Slice.endsWith_string_iff] at slash
      rcases slash with ⟨before, whole⟩
      exact .inr ⟨before, by simpa using whole.symm⟩
    · exact .inl (by simpa using empty)
  next => exact .inr ⟨directory.toList, by simp⟩

/-- What does not begin with a slash follows the directory. -/
theorem join_eq {name : String} (free : '/' ∉ name.toList) (directory : String) :
    join directory name = join directory "" ++ name := by
  have relative : ¬name.startsWith "/" := by
    rw [String.startsWith_string_iff]
    rintro ⟨rest, whole⟩
    exact free (whole ▸ List.mem_append_left _ List.mem_cons_self)
  have empty : ¬"".startsWith "/" := by decide
  rw [join, join, if_neg relative, if_neg empty]
  split
  · rw [String.append_empty]
  · rw [String.append_empty]

theorem nameIn?_append {directory name : String} (isName : IsName name) :
    nameIn? directory (join directory "" ++ name) = some name := by
  rw [nameIn?, split?_append (slashed_join directory) isName]
  exact if_pos rfl

/-- A file of another name is nowhere in a directory that it is not directly below. -/
theorem nameIn?_eq_none {directory base name : String} (slashed : Slashed base)
    (isName : IsName name) (apart : base ≠ join directory "") :
    nameIn? directory (base ++ name) = none := by
  rw [nameIn?, split?_append slashed isName]
  exact if_neg apart

/-! ## Stems -/

/-- A name loses what follows its last dot, unless nothing would be left. -/
theorem stemOf_cases (name : String) :
    stemOf name = name ∨ (stemOf name).toList ≠ [] ∧ (stemOf name).toList <+: name.toList := by
  rw [stemOf]
  split
  next => exact .inl rfl
  next => exact .inl rfl
  next first stem notSingle found =>
    have whole : name.toList.reverse =
        name.toList.reverse.takeWhile (· != '.') ++ first :: stem := by
      rw [← found, List.takeWhile_append_dropWhile]
    have order := congrArg List.reverse whole
    rw [List.reverse_reverse, List.reverse_append, List.reverse_cons, List.append_assoc] at order
    rw [String.toList_ofList]
    refine .inr ⟨fun empty => ?_, ⟨_, order.symm⟩⟩
    rw [List.reverse_eq_nil_iff.mp empty] at notSingle
    exact notSingle rfl

theorem free_stemOf {name : String} (free : '/' ∉ name.toList) : '/' ∉ (stemOf name).toList := by
  rcases stemOf_cases name with same | ⟨_, begins⟩
  · rwa [same]
  · exact fun slash => free (begins.subset slash)

theorem stemOf_ne_empty {name : String} (notEmpty : name.toList ≠ []) :
    (stemOf name).toList ≠ [] := by
  rcases stemOf_cases name with same | ⟨left, _⟩
  · rwa [same]
  · exact left

/-- What the stem of a path is like: it has no slash, and is not empty. -/
theorem of_stem?_eq_some {path stem : String} (found : stem? path = some stem) :
    '/' ∉ stem.toList ∧ stem.toList ≠ [] := by
  rw [stem?, Option.map_eq_some_iff] at found
  rcases found with ⟨⟨base, name⟩, apart, rfl⟩
  have ⟨_, isName, _⟩ := of_split?_eq_some apart
  refine ⟨free_stemOf isName.free, stemOf_ne_empty fun empty => ?_⟩
  have active := isName.active
  rw [empty] at active
  cases active

/-- A stem of a path, but for a single dot or two, is the name of a file. -/
theorem isName_of_stem?_eq_some {path stem : String} (found : stem? path = some stem)
    (notDot : stem ≠ ".") (notUp : stem ≠ "..") : IsName stem := by
  have ⟨free, notEmpty⟩ := of_stem?_eq_some found
  refine ⟨free, ?_, fun up => notUp (String.toList_inj.mp up)⟩
  have notSingle : stem.toList ≠ ['.'] := fun dot => notDot (String.toList_inj.mp dot)
  simp [isIdle, notEmpty, notSingle]

/-- A name with an extension of two characters at least is the name of a file. -/
theorem isName_extended {stem extension : String} (free : '/' ∉ stem.toList)
    (freeExtension : '/' ∉ extension.toList) (long : 2 ≤ extension.toList.length) :
    IsName (stem ++ "." ++ extension) := by
  have whole : (stem ++ "." ++ extension).toList = stem.toList ++ '.' :: extension.toList := by
    simp
  have length : 3 ≤ (stem ++ "." ++ extension).toList.length := by
    rw [whole, List.length_append, List.length_cons]
    omega
  refine ⟨?_, ?_, ?_⟩
  · rw [whole]
    simp [free, freeExtension]
  · generalize (stem ++ "." ++ extension).toList = cs at length
    have notEmpty : cs ≠ [] := fun empty => by simp [empty] at length
    have notDot : cs ≠ ['.'] := fun dot => by simp [dot] at length
    simp [isIdle, notEmpty, notDot]
  · intro up
    simp [up] at length

/-! ## Files by their stems -/

variable {directory stem extension file : String}

/-- A file that is named by a stem lies in the directory, under the stem of the stem. -/
theorem withExtension?_join (isName : IsName stem) :
    withExtension? (join directory stem) extension =
      some (join directory "" ++ (stemOf stem ++ "." ++ extension)) := by
  rw [withExtension?, join_eq isName.free, split?_append (slashed_join directory) isName]
  simp [String.append_assoc]

/-- No file is named by two dots. -/
theorem withExtension?_up : withExtension? (join directory "..") extension = none := by
  have free : '/' ∉ "..".toList := by decide
  rw [withExtension?, join_eq free, split?_up (slashed_join directory)]
  rfl

/-- A path that ends in a single dot does not come apart before it. -/
theorem ne_of_split?_dot {base name : String}
    (apart : split? (join directory ".") = some (base, name)) : base ≠ join directory "" := by
  have ⟨_, isName, begins⟩ := of_split?_eq_some apart
  rintro rfl
  have free : '/' ∉ ".".toList := by decide
  rw [join_eq free, String.toList_append, List.append_assoc, List.append_assoc,
    List.prefix_append_right_inj] at begins
  have active := isName.active
  cases characters : name.toList with
  | nil =>
      rw [characters] at active
      cases active
  | cons c rest =>
      rw [characters] at begins active
      have ⟨dot, following⟩ := List.cons_prefix_cons.mp begins
      cases rest with
      | nil =>
          rw [dot] at active
          cases active
      | cons d more =>
          have ⟨_, ends⟩ := List.cons_prefix_cons.mp following
          cases List.append_eq_nil_iff.mp (List.prefix_nil.mp ends) |>.2

/-- A file that is named by a single dot lies elsewhere. -/
theorem nameIn?_dot (free : '/' ∉ extension.toList) (long : 2 ≤ extension.toList.length)
    (found : withExtension? (join directory ".") extension = some file) :
    nameIn? directory file = none := by
  rw [withExtension?, Option.map_eq_some_iff] at found
  rcases found with ⟨⟨base, name⟩, apart, rfl⟩
  have ⟨slashed, isName, _⟩ := of_split?_eq_some apart
  have isFile := isName_extended (free_stemOf isName.free) free long
  have whole : base ++ stemOf name ++ "." ++ extension =
      base ++ (stemOf name ++ "." ++ extension) := by
    simp only [String.append_assoc]
  change nameIn? directory (base ++ stemOf name ++ "." ++ extension) = none
  rw [whole]
  exact nameIn?_eq_none slashed isFile (ne_of_split?_dot apart)

end OnnxForge.Path
