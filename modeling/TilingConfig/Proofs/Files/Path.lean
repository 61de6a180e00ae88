import Mathlib.Logic.Basic
import TilingConfig.Files.Tree

/-!
# The paths of places

A place is a list of names from the root, and its path has a slash before each of them. A name
is neither empty nor one of the two that stand for a directory by itself, and has no slash; so
the names are found again in the path, and the last one can be cut off and put back.
-/

namespace TilingConfig.Files

/-- A name that an entry of a directory can have. -/
structure IsName (name : String) : Prop where
  ne_empty : name ≠ ""
  ne_dot : name ≠ "."
  ne_dots : name ≠ ".."
  not_mem_slash : '/' ∉ name.toList

instance : DecidablePred IsName := fun name =>
  decidable_of_iff (name ≠ "" ∧ name ≠ "." ∧ name ≠ ".." ∧ '/' ∉ name.toList)
    ⟨fun ⟨hempty, hdot, hdots, hslash⟩ => ⟨hempty, hdot, hdots, hslash⟩,
      fun h => ⟨h.ne_empty, h.ne_dot, h.ne_dots, h.not_mem_slash⟩⟩

/-- The names of a place can be those of entries. -/
def IsPlain (place : Place) : Prop := ∀ name ∈ place, IsName name

instance : DecidablePred IsPlain := fun place =>
  inferInstanceAs (Decidable (∀ name ∈ place, IsName name))

variable {name : String} {place other : Place}

theorem IsName.toList_ne_nil (h : IsName name) : name.toList ≠ [] := fun hnil =>
  h.ne_empty (String.toList_eq_nil_iff.1 hnil)

theorem IsPlain.nil : IsPlain [] := List.forall_mem_nil _

theorem IsPlain.append (hplace : IsPlain place) (hname : IsName name) :
    IsPlain (place ++ [name]) :=
  List.forall_mem_append.2 ⟨hplace, List.forall_mem_singleton.2 hname⟩

theorem IsPlain.of_append (h : IsPlain (place ++ [name])) : IsPlain place ∧ IsName name :=
  ⟨fun _ hmem => h _ (List.mem_append_left _ hmem), h _ (by simp)⟩

/-! ## The parts of a path -/

/-- The names with a slash before each. -/
def slashed (names : List String) : List Char := names.flatMap fun name => '/' :: name.toList

theorem slashed_append (names more : List String) :
    slashed (names ++ more) = slashed names ++ slashed more := List.flatMap_append

theorem slashed_concat (names : List String) (name : String) :
    slashed (names ++ [name]) = slashed names ++ '/' :: name.toList := by
  rw [slashed_append]
  exact congrArg _ (List.append_nil _)

theorem splitAtChar_of_not_mem {separator : Char} {cs : List Char} (h : separator ∉ cs) :
    splitAtChar separator cs = [cs] := by
  induction cs with
  | nil => rfl
  | cons c cs ih =>
    obtain ⟨hc, hcs⟩ := not_or.1 (List.mem_cons.not.1 h)
    rw [splitAtChar, if_neg (Ne.symm hc), ih hcs]

theorem splitAtChar_append_cons {separator : Char} {front : List Char} (h : separator ∉ front)
    (rest : List Char) :
    splitAtChar separator (front ++ separator :: rest) = front :: splitAtChar separator rest := by
  induction front with
  | nil => exact if_pos rfl
  | cons c front ih =>
    obtain ⟨hc, hfront⟩ := not_or.1 (List.mem_cons.not.1 h)
    rw [List.cons_append, splitAtChar, if_neg (Ne.symm hc), ih hfront]

/-- Cut at the slashes, the names are found again. -/
theorem splitAtChar_slashed {front : List Char} (hfront : '/' ∉ front) (hplace : IsPlain place) :
    splitAtChar '/' (front ++ slashed place) = front :: place.map String.toList := by
  induction place generalizing front with
  | nil =>
    rw [slashed, List.flatMap_nil, List.append_nil]
    exact splitAtChar_of_not_mem hfront
  | cons name place ih =>
    obtain ⟨hname, hrest⟩ := List.forall_mem_cons.1 hplace
    rw [slashed, List.flatMap_cons, List.cons_append, splitAtChar_append_cons hfront]
    exact congrArg _ (ih hname.not_mem_slash hrest)

namespace Path

/-- The path of a place other than the root is its names with a slash before each. -/
theorem toList_ofNames (hplace : place ≠ []) : (ofNames place).text.toList = slashed place := by
  have hnames (name : String) (rest : List String) :
      ("/".intercalate (name :: rest)).toList = name.toList ++ slashed rest := by
    induction rest generalizing name with
    | nil => simp [slashed]
    | cons next rest ih =>
      rw [String.intercalate_cons_cons, String.toList_append, String.toList_append, ih]
      simp [slashed]
  cases place with
  | nil => exact absurd rfl hplace
  | cons name rest =>
    rw [ofNames, String.toList_append, hnames]
    rfl

theorem parts_ofNames (hplace : place ≠ []) (hplain : IsPlain place) :
    (ofNames place).parts = "" :: place := by
  have hsplit : splitAtChar '/' (slashed place) = [] :: place.map String.toList :=
    splitAtChar_slashed (List.not_mem_nil) hplain
  rw [parts, toList_ofNames hplace, hsplit, List.map_cons, List.map_map]
  simp [Function.comp_def]

theorem isAbsolute_ofNames (place : Place) : (ofNames place).isAbsolute = true := by
  rw [isAbsolute, ofNames, String.toList_append]
  rfl

/-- A path names the place that it is the path of. -/
theorem components_ofNames (hplain : IsPlain place) :
    (ofNames place).components = ⟨true, place⟩ := by
  rw [components, isAbsolute_ofNames]
  by_cases hplace : place = []
  · subst hplace
    decide
  · have hfilter : place.filter (fun part => part != "" && part != ".") = place :=
      List.filter_eq_self.2 fun name hname => by
        simp [(hplain name hname).ne_empty, (hplain name hname).ne_dot]
    rw [parts_ofNames hplace hplain]
    simp only [if_true, List.nil_append, hfilter]

/-- Different places have different paths. -/
theorem ofNames_inj (hplace : IsPlain place) (hother : IsPlain other) :
    ofNames place = ofNames other ↔ place = other := by
  refine ⟨fun h => ?_, congrArg ofNames⟩
  have hcomponents := congrArg components h
  rw [components_ofNames hplace, components_ofNames hother] at hcomponents
  exact congrArg Components.names hcomponents

/-! ## The last name of a path -/

theorem fileName?_ofNames (hplain : IsPlain (place ++ [name])) :
    (ofNames (place ++ [name])).fileName? = some name := by
  have hname := hplain.of_append.2
  rw [fileName?, components_ofNames hplain, List.getLast?_concat]
  simp [hname.ne_dot, hname.ne_dots]

/-- Nothing is dropped at the end of a text that ends in a name. -/
theorem trimTail_reverse_append (hname : IsName name) (front : List Char) :
    trimTail (name.toList.reverse ++ '/' :: front) = name.toList.reverse ++ '/' :: front := by
  have hne : name.toList.reverse ≠ [] := by simpa using hname.ne_empty
  have hslash : '/' ∉ name.toList.reverse := by simpa using hname.not_mem_slash
  have hdot : name.toList.reverse ≠ ['.'] := fun hdot => by
    have htext : name.toList = ".".toList := by simpa using congrArg List.reverse hdot
    exact hname.ne_dot (String.toList_injective htext)
  -- Only a slash at the end is dropped, or a dot behind one: the last character is no slash, and
  -- one before it is no slash either.
  rcases hchars : name.toList.reverse with _ | ⟨c, _ | ⟨d, rest⟩⟩
  · exact absurd hchars hne
  · rw [hchars] at hslash hdot
    have hc : c ≠ '/' := fun h => hslash (by simp [h])
    have hc' : c ≠ '.' := fun h => hdot (by rw [h])
    rw [List.singleton_append]
    unfold trimTail
    simp [hc, hc']
  · rw [hchars] at hslash
    have hc : c ≠ '/' := fun h => hslash (by simp [h])
    have hd : d ≠ '/' := fun h => hslash (by simp [h])
    rw [List.cons_append, List.cons_append]
    unfold trimTail
    simp [hc, hd]

theorem reverse_slashed_concat (place : Place) (name : String) :
    (slashed (place ++ [name])).reverse =
      name.toList.reverse ++ '/' :: (slashed place).reverse := by
  rw [slashed_concat]
  simp

/-- A slash behind the path of a place is dropped, except that of the root. -/
theorem trimTail_slash_cons (hplain : IsPlain place) :
    trimTail ('/' :: (slashed place).reverse) = (ofNames place).text.toList.reverse := by
  rcases List.eq_nil_or_concat place with rfl | ⟨directory, last, rfl⟩
  · rfl
  · rw [List.concat_eq_append] at hplain ⊢
    have hne : (slashed (directory ++ [last])).reverse ≠ [] := by simp [slashed]
    rw [trimTail.eq_2 _ hne, toList_ofNames (by simp), reverse_slashed_concat,
      trimTail_reverse_append hplain.of_append.2]

/-- Without its last name, the path of an entry is that of its directory. -/
theorem parent?_ofNames (hplain : IsPlain (place ++ [name])) :
    (ofNames (place ++ [name])).parent? = some (ofNames place) := by
  obtain ⟨hplace, hname⟩ := hplain.of_append
  have hne : name.toList.reverse ≠ [] := by simpa using hname.ne_empty
  have hdrop : (name.toList.reverse ++ '/' :: (slashed place).reverse).dropWhile (· != '/') =
      '/' :: (slashed place).reverse := by
    have hall : ∀ c ∈ name.toList.reverse, (c != '/') = true := fun c hc =>
      bne_iff_ne.2 fun h => hname.not_mem_slash (h ▸ List.mem_reverse.1 hc)
    rw [List.dropWhile_append_of_pos hall]
    rfl
  rw [parent?, toList_ofNames (by simp), reverse_slashed_concat, trimTail_reverse_append hname]
  split
  · next h => exact absurd (List.append_eq_nil_iff.1 h).1 hne
  · next h =>
    have hroot := List.append_eq_singleton_iff.1 h
    simp [hne] at hroot
  · rw [hdrop, trimTail_slash_cons hplace, List.reverse_reverse, String.ofList_toList]

/-- No slash is at the end of a path, except that of the root. -/
theorem getLast?_ofNames (hplace : place ≠ []) (hplain : IsPlain place) :
    (ofNames place).text.toList.getLast? ≠ some '/' := by
  intro hslash
  rw [toList_ofNames hplace] at hslash
  rcases List.eq_nil_or_concat place with rfl | ⟨directory, last, rfl⟩
  · exact hplace rfl
  · rw [List.concat_eq_append] at hplain hslash
    have hlast := hplain.of_append.2
    rw [slashed_concat, List.getLast?_append, List.getLast?_cons] at hslash
    rcases hchars : last.toList.getLast? with _ | c
    · exact hlast.toList_ne_nil (List.getLast?_eq_none_iff.1 hchars)
    · rw [hchars] at hslash
      obtain rfl : c = '/' := by simpa using hslash
      exact hlast.not_mem_slash (List.mem_of_getLast? hchars)

/-- An entry of a directory has the path of the directory with its name behind it. -/
theorem join_ofNames (hplace : IsPlain place) (hname : IsName name) :
    (ofNames place).join ⟨name⟩ = ofNames (place ++ [name]) := by
  have hrelative : (⟨name⟩ : Path).isAbsolute = false := by
    rw [isAbsolute]
    rcases hchars : name.toList with _ | ⟨c, rest⟩
    · rfl
    · have hc : c ≠ '/' := fun h => hname.not_mem_slash (by simp [hchars, h])
      simp [hc]
  have hnonempty : (ofNames place).text.isEmpty = false := by
    simp [ofNames]
  rw [join, hrelative, hnonempty, Bool.or_self, if_neg Bool.false_ne_true]
  by_cases hroot : place = []
  · subst hroot
    simp [ofNames]
  · have htext : ((ofNames place).text ++ "/" ++ name).toList =
        (ofNames (place ++ [name])).text.toList := by
      rw [String.toList_append, String.toList_append, toList_ofNames hroot,
        toList_ofNames (by simp), slashed_concat]
      simp
    rw [if_neg (getLast?_ofNames hroot hplace)]
    exact congrArg Path.mk (String.toList_injective htext)

end Path

end TilingConfig.Files
