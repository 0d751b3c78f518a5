import DocLedger.Host.Launch
import DocLedger.Index.Options

/-!
# Paths and the directories they start from

A relative path first climbs to directories above and then names parts below.
What it names depends on the directory it starts from only through the place to
which it climbs.  A path taken from the place that it names itself, as a child
does that is started there, names that place again only if it goes down as far
as it climbs.
-/

namespace DocLedger.Host

/-- A path made short: how many directories it climbs, and the parts that it
names from there. -/
structure Trail where
  ups : Nat
  names : List String

namespace Trail

/-- A trail followed by one more part. -/
def step (t : Trail) (part : String) : Trail :=
  if part == ".." then
    if t.names.isEmpty then ⟨t.ups + 1, []⟩ else ⟨t.ups, t.names.dropLast⟩
  else ⟨t.ups, t.names ++ [part]⟩

end Trail

def trail (path : String) : Trail := (parts path).foldl Trail.step ⟨0, []⟩

/-- The place so many directories above; nothing is above the root. -/
def above (ups : Nat) (place : Place) : Place := place.take (place.length - ups)

def Trail.placeFrom (t : Trail) (start : Place) : Place := above t.ups start ++ t.names

theorem length_above (ups : Nat) (place : Place) :
    (above ups place).length = place.length - ups := by
  rw [above, List.length_take]
  omega

theorem above_succ (ups : Nat) (place : Place) :
    above (ups + 1) place = (above ups place).dropLast := by
  rw [List.dropLast_eq_take, length_above, above, above, List.take_take]
  congr 1
  omega

theorem Trail.placeFrom_step (t : Trail) (start : Place) (part : String) :
    (t.step part).placeFrom start = enterPart (t.placeFrom start) part := by
  by_cases hup : part == ".."
  · cases hnames : t.names with
    | nil => simp [step, enterPart, placeFrom, hup, hnames, above_succ]
    | cons name names =>
        simp only [step, enterPart, placeFrom, hup, hnames, if_true, List.isEmpty_cons]
        exact (List.dropLast_append_of_ne_nil (by simp)).symm
  · simp [step, enterPart, placeFrom, hup]

theorem placeFrom_trail (start : Place) (ps : List String) (t : Trail) :
    (ps.foldl Trail.step t).placeFrom start = ps.foldl enterPart (t.placeFrom start) := by
  induction ps generalizing t with
  | nil => rfl
  | cons part ps ih => rw [List.foldl_cons, List.foldl_cons, ih, t.placeFrom_step]

theorem placeOf_eq (start : Place) (path : String) :
    placeOf start path =
      above (trail path).ups (if isAbsolute path then [] else start) ++ (trail path).names := by
  have htrail := placeFrom_trail (if isAbsolute path then [] else start) (parts path) ⟨0, []⟩
  simp only [Trail.placeFrom, above, Nat.sub_zero, List.take_length, List.append_nil] at htrail
  exact htrail.symm

/-- A path names one place from two directories just in case it is absolute or
climbs to one place from both. -/
theorem placeOf_eq_placeOf_iff (a b : Place) (path : String) :
    placeOf a path = placeOf b path ↔
      isAbsolute path = true ∨ above (trail path).ups a = above (trail path).ups b := by
  rw [placeOf_eq, placeOf_eq, List.append_left_inj]
  by_cases habsolute : isAbsolute path = true
  · simp [habsolute]
  · simp [habsolute]

theorem above_above_append_iff (ups : Nat) (place : Place) (names : List String) :
    above ups (above ups place ++ names) = above ups place ↔
      names.length = ups ∨ (place.length ≤ ups ∧ names.length ≤ ups) := by
  constructor
  · intro h
    have hlength := congrArg List.length h
    rw [length_above, List.length_append, length_above] at hlength
    omega
  · rintro (hlevel | ⟨hroot, hnames⟩)
    · rw [above, List.length_append, hlevel, Nat.add_sub_cancel, List.take_left]
    · have htop : above ups place = [] := by
        apply List.eq_nil_of_length_eq_zero
        rw [length_above]
        omega
      rw [htop, List.nil_append]
      apply List.eq_nil_of_length_eq_zero
      rw [length_above]
      omega

/-- A path taken once more from the place that it names. -/
theorem placeOf_placeOf_iff (home : Place) (path : String) :
    placeOf (placeOf home path) path = placeOf home path ↔
      isAbsolute path = true ∨ (trail path).names.length = (trail path).ups ∨
        (home.length ≤ (trail path).ups ∧ (trail path).names.length ≤ (trail path).ups) := by
  rw [placeOf_eq_placeOf_iff]
  by_cases habsolute : isAbsolute path = true
  · simp [habsolute]
  · have hplace : placeOf home path =
        above (trail path).ups home ++ (trail path).names := by
      rw [placeOf_eq, if_neg habsolute]
    rw [hplace, above_above_append_iff]

/-! ## A name put behind a path -/

theorem parts_append_slash (front name : List Char) :
    parts (String.ofList (front ++ '/' :: name)) =
      parts (String.ofList front) ++ parts (String.ofList name) := by
  simp only [parts, String.toList_ofList, List.splitOn_append_cons_self, List.map_append,
    List.filter_append]

theorem joinPath_eq {directory : String} (hdirectory : directory ≠ "") (name : String) :
    ∃ front, (directory = String.ofList front ∨ directory = String.ofList (front ++ ['/'])) ∧
      Index.joinPath directory name = String.ofList (front ++ '/' :: name.toList) := by
  by_cases hslash : directory.endsWith "/" = true
  · have hsuffix : "/".toList <:+ directory.toList := by
      rw [← String.endsWith_toSlice, String.Slice.endsWith_string_iff] at hslash
      simpa using hslash
    obtain ⟨front, hfront⟩ := hsuffix
    have hpath : directory = String.ofList (front ++ ['/']) := by
      rw [← String.toList_inj, String.toList_ofList]
      exact hfront.symm
    refine ⟨front, Or.inr hpath, ?_⟩
    rw [Index.joinPath, if_pos (by simp [hslash]), hpath, ← String.toList_inj]
    simp
  · refine ⟨directory.toList, Or.inl (String.ofList_toList).symm, ?_⟩
    rw [Index.joinPath, if_neg (by simp [hdirectory, hslash]), ← String.toList_inj]
    simp

theorem parts_joinPath {directory : String} (hdirectory : directory ≠ "") (name : String) :
    parts (Index.joinPath directory name) = parts directory ++ parts name := by
  obtain ⟨front, hpath, hjoin⟩ := joinPath_eq hdirectory name
  rw [hjoin, parts_append_slash, String.ofList_toList]
  rcases hpath with rfl | rfl
  · rfl
  · have hnothing : parts (String.ofList []) = [] := rfl
    rw [parts_append_slash, hnothing, List.append_nil]

theorem isAbsolute_joinPath {directory : String} (hdirectory : directory ≠ "") (name : String) :
    isAbsolute (Index.joinPath directory name) = isAbsolute directory := by
  obtain ⟨front, hpath, hjoin⟩ := joinPath_eq hdirectory name
  rw [hjoin, Bool.eq_iff_iff, isAbsolute, isAbsolute, String.startsWith_string_iff,
    String.startsWith_string_iff]
  rcases hpath with rfl | rfl
  · cases front with
    | nil => exact absurd rfl hdirectory
    | cons c front => simp
  · cases front with
    | nil => simp
    | cons c front => simp

theorem placeOf_joinPath {directory : String} (hdirectory : directory ≠ "") (name : String)
    (start : Place) :
    placeOf start (Index.joinPath directory name) =
      (parts name).foldl enterPart (placeOf start directory) := by
  rw [placeOf, isAbsolute_joinPath hdirectory, parts_joinPath hdirectory, List.foldl_append,
    placeOf]

/-! ## Looking up a path -/

namespace Files

theorem walk_eq_entry {files : Files} {start place : Place} {ps : List String} {e : Entry}
    (h : files.walk start ps = .entry place e) : place = ps.foldl enterPart start := by
  induction ps generalizing start with
  | nil =>
      simp only [walk] at h
      split at h
      · cases h
        rfl
      · cases h
  | cons part ps ih =>
      simp only [walk] at h
      split at h
      · exact ih h
      · cases h
      · cases h

/-- What is found at a path lies at the place that the path names. -/
theorem find_eq_entry {files : Files} {start place : Place} {path : String} {e : Entry}
    (h : files.find start path = .entry place e) : place = placeOf start path := by
  have hwalk : files.walk (if isAbsolute path then [] else start) (parts path) =
      .entry place e := by
    unfold find at h
    split at h
    · cases h
    · split at h
      · next hdirectory =>
          cases h
          exact hdirectory
      · next hentry =>
          split at h
          · cases h
          · cases h
            exact hentry
      · next hother => exact absurd h (hother _ _)
  exact walk_eq_entry hwalk

end Files

/-- A child that is started in a directory starts at the place that names it. -/
theorem enter_eq_ok {files : Files} {path : String} {place : Place}
    (h : enter files (some path) = .ok place) : place = placeOf files.home path := by
  simp only [enter] at h
  split at h
  · next hfound =>
      cases h
      exact Files.find_eq_entry hfound
  · cases h
  · cases h

end DocLedger.Host
