import Schemata.Error
import Schemata.Folder.Basic

/-! # What changes in a folder

A path names its place by its parts alone: what stands there, and on the way there, decides only
whether the place can be reached. A file that is written is the one at that place, and the files at
all other places stay as they are. Making directories changes no file, since directories are made
only where nothing stands. -/

namespace Schemata.Folder

/-! ## Places of paths -/

/-- The place that a path names, if it can name one. -/
def place? (path : String) : Option Place :=
  (do (Path.parts path).foldlM step (← start path)).toOption

/-- Parts that can be entered lead where they lead by themselves. -/
theorem foldlM_step_of_enter {f : Folder} {parts : List String} {p q : Place}
    (h : f.enter p parts = .ok q) : parts.foldlM step p = .ok q := by
  induction parts generalizing p with
  | nil => exact h
  | cons part rest ih =>
      rw [enter, bind_eq_ok_iff] at h
      obtain ⟨r, hstep, hrest⟩ := h
      rw [List.foldlM_cons, bind_eq_ok_iff]
      refine ⟨r, hstep, ?_⟩
      split at hrest
      · exact ih hrest
      · cases hrest
      · cases hrest

/-- Parts that lead somewhere lead where they lead by themselves. -/
theorem foldlM_step_of_resolveParts {f : Folder} {p q : Place} {parts : List String}
    (h : f.resolveParts p parts = .ok q) : parts.foldlM step p = .ok q := by
  rw [resolveParts, bind_eq_ok_iff] at h
  obtain ⟨r, henter, hlast⟩ := h
  obtain rfl | ⟨before, last, rfl⟩ := List.eq_nil_or_concat parts
  · cases henter
    exact hlast
  · -- The last part need not be a directory, so it is not entered but only followed.
    rw [List.concat_eq_append] at henter hlast ⊢
    rw [List.dropLast_concat] at henter
    rw [List.getLast?_concat] at hlast
    rw [List.foldlM_append, bind_eq_ok_iff]
    exact ⟨r, foldlM_step_of_enter henter, (bind_eq_ok_iff _ _ _).2 ⟨q, hlast, rfl⟩⟩

/-- A path that leads somewhere leads to its place. -/
theorem place?_of_resolve {f : Folder} {path : String} {p : Place} (h : f.resolve path = .ok p) :
    place? path = some p := by
  rw [resolve, bind_eq_ok_iff] at h
  obtain ⟨s, hstart, hparts⟩ := h
  rw [place?, hstart]
  show ((Path.parts path).foldlM step s).toOption = some p
  rw [foldlM_step_of_resolveParts hparts]
  rfl

/-! ## Contents -/

/-- The content of the file at a place, if a file stands there. -/
def content? (f : Folder) (p : Place) : Option ByteArray :=
  match f.node? p with
  | some (.file content) => some content
  | _ => none

/-- A file that can be read stands at the place of the path. -/
theorem content?_of_read {f : Folder} {path : String} {bytes : ByteArray}
    (h : f.read path = .ok bytes) : ∃ p, place? path = some p ∧ f.content? p = some bytes := by
  rw [read, bind_eq_ok_iff] at h
  obtain ⟨p, hresolve, hnode⟩ := h
  refine ⟨p, place?_of_resolve hresolve, ?_⟩
  rw [content?]
  split at hnode
  · cases hnode
  · cases hnode
  · next content hfile =>
      rw [hfile]
      split at hnode
      · cases hnode
      · exact congrArg some (Except.ok.inj hnode)

/-- What a list of entries has under other keys stays when the entries under one are taken out. -/
theorem lookup_filter_of_ne {p q : Place} (hne : q ≠ p) (nodes : List (Place × Node)) :
    (nodes.filter fun entry => entry.1 != p).lookup q = nodes.lookup q := by
  induction nodes with
  | nil => rfl
  | cons entry nodes ih =>
      obtain ⟨r, node⟩ := entry
      by_cases hr : r = p
      · subst hr
        rw [List.filter_cons_of_neg (by simp), ih, List.lookup_cons, beq_false_of_ne hne]
      · rw [List.filter_cons_of_pos (by simpa using hr), List.lookup_cons, List.lookup_cons, ih]

/-- What is put at a place stands there, unless the place is an anchor. -/
theorem node?_put_self (f : Folder) {p : Place} (hp : p.names ≠ []) (node : Node) :
    (f.put p node).node? p = some node := by
  rw [node?, if_neg (by simpa using hp)]
  exact List.lookup_cons_self

/-- What stands at other places stays. -/
theorem node?_put_of_ne (f : Folder) {p q : Place} (hne : q ≠ p) (node : Node) :
    (f.put p node).node? q = f.node? q := by
  have hlookup : (f.put p node).nodes.lookup q = f.nodes.lookup q := by
    rw [put, List.lookup_cons, beq_false_of_ne hne]
    exact lookup_filter_of_ne hne f.nodes
  rw [node?, node?, hlookup]

/-- Where something other than a directory may stand, there is no anchor. -/
theorem names_ne_nil_of_node? {f : Folder} {p : Place} (h : f.node? p ≠ some .directory) :
    p.names ≠ [] :=
  fun hnil => h (by rw [node?, hnil]; rfl)

/-! ## Changes -/

/-- Whether every file but the one at an exempt place is as it was: there are no others, and each
has its content. -/
def SameBut (exempt : Option Place) (before after : Folder) : Prop :=
  ∀ p, some p ≠ exempt → after.content? p = before.content? p

/-- A folder has the files that it has. -/
theorem SameBut.refl (exempt : Option Place) (f : Folder) : SameBut exempt f f := fun _ _ => rfl

/-- Files that two changes leave as they were are as they were before both. -/
theorem SameBut.trans {exempt : Option Place} {f g h : Folder} (hfg : SameBut exempt f g)
    (hgh : SameBut exempt g h) : SameBut exempt f h :=
  fun p hp => (hgh p hp).trans (hfg p hp)

/-- A place may be exempt where no file has changed. -/
theorem SameBut.mono {exempt : Option Place} {f g : Folder} (h : SameBut none f g) :
    SameBut exempt f g :=
  fun p _ => h p (Option.some_ne_none p)

/-- A change of the node at one place changes no file elsewhere. -/
theorem sameBut_put (f : Folder) (p : Place) (node : Node) : SameBut (some p) f (f.put p node) := by
  intro q hq
  rw [content?, content?, f.node?_put_of_ne (fun h => hq (congrArg some h))]

/-- Whether a path leads to a place for a file: it does not end with a slash, and what stands at the
place, if anything, is a file. -/
def LeadsToFile (f : Folder) (path : String) : Prop :=
  Path.endsWithSlash path = false
    ∧ ∃ p, f.resolve path = .ok p ∧ f.node? p ≠ some .directory

/-- A file is written exactly where a path leads to a place for one, whatever its content. -/
theorem write_eq_ok_iff {f g : Folder} {path : String} {bytes : ByteArray} :
    f.write path bytes = .ok g
      ↔ Path.endsWithSlash path = false
        ∧ ∃ p, f.resolve path = .ok p ∧ f.node? p ≠ some .directory
          ∧ f.put p (.file bytes) = g := by
  rw [write]
  cases hslash : Path.endsWithSlash path with
  | true =>
      simp only [if_true, Bool.true_eq_false, false_and, iff_false]
      intro h
      obtain ⟨_, -, h⟩ := (bind_eq_ok_iff _ _ _).1 h
      obtain ⟨_, -, h⟩ := (bind_eq_ok_iff _ _ _).1 h
      cases h
  | false =>
      simp only [Bool.false_eq_true, if_false, true_and, bind_eq_ok_iff]
      refine exists_congr fun p => and_congr_right fun _ => ?_
      split
      · next hdirectory => simp [hdirectory, throw, throwThe, MonadExceptOf.throw]
      · next hother =>
          have hdirectory : f.node? p ≠ some .directory := hother
          simp [hdirectory, pure, Except.pure]

/-- A file can be written exactly if the path leads to a place for one. -/
theorem exists_write_iff (f : Folder) (path : String) (bytes : ByteArray) :
    (∃ g, f.write path bytes = .ok g) ↔ f.LeadsToFile path := by
  simp only [write_eq_ok_iff, LeadsToFile]
  constructor
  · rintro ⟨_, hslash, p, hresolve, hdirectory, -⟩
    exact ⟨hslash, p, hresolve, hdirectory⟩
  · rintro ⟨hslash, p, hresolve, hdirectory⟩
    exact ⟨_, hslash, p, hresolve, hdirectory, rfl⟩

/-- A file that is written has its content and stands at the place of the path. -/
theorem content?_of_write {f g : Folder} {path : String} {bytes : ByteArray}
    (h : f.write path bytes = .ok g) :
    ∃ p, place? path = some p ∧ g.content? p = some bytes ∧ SameBut (some p) f g := by
  obtain ⟨-, p, hresolve, hdirectory, rfl⟩ := write_eq_ok_iff.1 h
  refine ⟨p, place?_of_resolve hresolve, ?_, f.sameBut_put p _⟩
  rw [content?, f.node?_put_self (names_ne_nil_of_node? hdirectory)]

/-- A directory is made where nothing stands. -/
theorem sameBut_makeDirectory {f g : Folder} {start : Place} {parts : List String}
    (h : f.makeDirectory start parts = .ok g) : SameBut none f g := by
  rw [makeDirectory, bind_eq_ok_iff] at h
  obtain ⟨p, -, hnode⟩ := h
  split at hnode
  · cases hnode
  · next hnothing =>
      obtain rfl : f.put p .directory = g := Except.ok.inj hnode
      have hnames : p.names ≠ [] := names_ne_nil_of_node? (f := f) (by simp [hnothing])
      -- At the place itself there was no file before, and there is none now.
      intro q _
      by_cases hq : q = p
      · rw [hq, content?, content?, f.node?_put_self hnames, hnothing]
      · exact f.sameBut_put p _ q (fun h => hq (Option.some.inj h))

/-- Seeing to it that there is a directory leaves the files as they were. -/
theorem sameBut_ensureDirectory {f g : Folder} {start : Place} {parts : List String}
    (h : f.ensureDirectory start parts = .ok g) : SameBut none f g := by
  rw [ensureDirectory] at h
  split at h
  · next made hmade => exact Except.ok.inj h ▸ sameBut_makeDirectory hmade
  · split at h
    · exact Except.ok.inj h ▸ .refl none f
    · cases h

/-! ## Changes that may stop halfway -/

/-- A change that is made as a whole or not at all leaves what it leaves when it is made. -/
theorem sameBut_ofExcept {exempt : Option Place} {f : Folder} {change : Except SystemError Folder}
    (h : ∀ g, change = .ok g → SameBut exempt f g) :
    SameBut exempt f (Outcome.ofExcept f change).1 := by
  cases change with
  | ok g => exact h g rfl
  | error e => exact .refl exempt f

/-- A change and a further one leave what both leave. -/
theorem sameBut_andThen {exempt : Option Place} {f : Folder} {o : Outcome}
    {next : Folder → Outcome} (h : SameBut exempt f o.1)
    (hnext : ∀ g, SameBut exempt g (next g).1) : SameBut exempt f (o.andThen next).1 := by
  obtain ⟨g, outcome⟩ := o
  cases outcome with
  | ok _ => exact h.trans (hnext g)
  | error e => exact h

/-- Making directories one inside the other, as far as it goes, leaves the files as they were. -/
theorem sameBut_makeDirectories (f : Folder) (start : Place) (parts : List String) :
    SameBut none f (f.makeDirectories start parts).1 := by
  have hensure (g : Folder) (last : String) (before : List String) :
      SameBut none g (Outcome.ofExcept g (g.ensureDirectory start (last :: before).reverse)).1 :=
    sameBut_ofExcept fun _ => sameBut_ensureDirectory
  -- The parts are listed backwards, so what is left of them are the parents.
  induction parts with
  | nil => exact .refl none f
  | cons last before ih =>
      rw [makeDirectories]
      split
      · exact sameBut_andThen ih fun g => hensure g last before
      · exact hensure f last before

/-- Making the directories of a path leaves the files as they were. -/
theorem sameBut_makePath (f : Folder) (path : String) : SameBut none f (f.makePath path).1 := by
  rw [makePath]
  split
  · exact .refl none f
  · split
    · exact f.sameBut_makeDirectories _ _
    · exact .refl none f

/-- Whether or not a file can be created: of all files, only the one at its place changes. -/
theorem sameBut_createEmpty (f : Folder) (path : String) :
    SameBut (place? path) f (f.createEmpty path).1 := by
  rw [createEmpty]
  refine sameBut_andThen ?_ fun g => sameBut_ofExcept fun g' hwrite => ?_
  · split
    · exact (f.sameBut_makePath _).mono
    · exact .refl _ f
  · obtain ⟨p, hplace, -, hsame⟩ := content?_of_write hwrite
    exact hplace ▸ hsame

end Schemata.Folder
