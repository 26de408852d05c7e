import BlobDepot.Proofs.Folder.Places

/-!
# Paths through folders

A path that leads somewhere can be gone on with from there, whatever links it came along. From a
proper folder without links a path that does not lead up goes down from folder to folder, until a
file or a name that is too long is in its way.
-/
namespace BlobDepot.Folder

variable {p : Rule} {f root inside : Folder} {name : FileName} {item : Item} {l : Leaf}
  {before path place reached : List FileName}

/-! ## Paths that fit -/

theorem checkPath_eq_ok_iff {bytes : List UInt8} :
    checkPath bytes = .ok () ↔ 0 ∉ bytes ∧ bytes.length < maxPath := by
  rw [checkPath]
  split
  · rename_i hzero
    simp [List.contains_iff_mem.1 hzero]
  · rename_i hzero
    have hnot : 0 ∉ bytes := fun h => hzero (List.contains_iff_mem.2 h)
    split
    · rename_i hlong
      simp [hnot, hlong]
    · rename_i hlong
      simp [hnot, Nat.lt_of_not_le hlong]

section Refused

variable {bytes : List UInt8} {fault : IoFault} (h : checkPath bytes = .error fault)

include h

theorem checkPath_eq_error : fault = .zeroInName ∨ fault = .nameTooLong := by
  rw [checkPath] at h
  split at h
  · exact .inl (Except.error.inj h).symm
  · split at h
    · exact .inr (Except.error.inj h).symm
    · cases h

theorem ne_noEntry_of_checkPath : fault ≠ .noEntry := by
  rcases checkPath_eq_error h with rfl | rfl <;> decide

theorem isDenial_of_checkPath : fault.isDenial = false := by
  rcases checkPath_eq_error h with rfl | rfl <;> rfl

end Refused

theorem checkPath_of_prefix {bytes bytes' : List UInt8} (h : bytes <+: bytes')
    (hfits : checkPath bytes' = .ok ()) : checkPath bytes = .ok () := by
  obtain ⟨hzero, hlong⟩ := checkPath_eq_ok_iff.1 hfits
  exact checkPath_eq_ok_iff.2
    ⟨fun hmem => hzero (h.subset hmem), Nat.lt_of_le_of_lt h.length_le hlong⟩

/-! ## Steps -/

inductive Stride where
  /-- The rest of the path goes on from a place. -/
  | goes (place : List FileName)
  /-- The rest of the path goes on along a link. -/
  | follows (target : List FileName)
  | misses
  | fails (fault : IoFault)

def stride (root : Folder) (place : List FileName) (name : FileName) : Stride :=
  match root.at? place with
  | some (.folder here) =>
    if name = "" ∨ name = "." then .goes place
    else if name = ".." then .goes place.dropLast
    else if maxName < name.bytes.length then .fails .nameTooLong
    else
      match here.find? name with
      | none => .misses
      | some (.leaf (.link target)) => .follows target
      | some _ => .goes (place ++ [name])
  | _ => .fails .notDirectory

section Walk

variable {fresh : Bool} {follow : List FileName → List FileName → Except IoFault (List FileName)}

theorem walk_cons (root : Folder) (place : List FileName) (name : FileName) (path : List FileName) :
    walk root fresh follow place (name :: path) =
      match stride root place name with
      | .goes place' => walk root fresh follow place' path
      | .follows target => follow (startOf place target) (target ++ path)
      | .misses => if fresh ∧ path = [] then .ok (place ++ [name]) else .error .noEntry
      | .fails fault => .error fault := by
  rw [walk, stride]
  cases root.at? place with
  | none => rfl
  | some item =>
    cases item with
    | leaf l => rfl
    | folder here =>
      by_cases hstay : name = "" ∨ name = "."
      · simp only [if_pos hstay]
      by_cases hup : name = ".."
      · simp only [if_neg hstay, if_pos hup]
      by_cases hlong : maxName < name.bytes.length
      · simp only [if_neg hstay, if_neg hup, if_pos hlong]
      simp only [if_neg hstay, if_neg hup, if_neg hlong]
      cases here.find? name with
      | none => rfl
      | some found =>
        cases found with
        | leaf l => cases l <;> rfl
        | folder inside => rfl

end Walk

/-- A path that leads somewhere can be gone on with from there, along some number of links. -/
theorem locate_append {links : Nat} (h : locate root false links place path = .ok reached)
    (more : List FileName) :
    ∃ links', locate root false links place (path ++ more) =
      locate root false links' reached more := by
  -- by induction on the links left, and along the path for each number of them
  induction links generalizing place path with
  | zero =>
    refine ⟨0, ?_⟩
    rw [locate] at h ⊢
    induction path generalizing place with
    | nil =>
      cases h
      rfl
    | cons name path ih =>
      rw [walk_cons] at h
      rw [List.cons_append, walk_cons]
      cases hstride : stride root place name with
      | goes place' =>
        rw [hstride] at h
        exact ih h
      | follows target => simp [hstride] at h
      | misses => simp [hstride] at h
      | fails fault => simp [hstride] at h
  | succ links ihlinks =>
    rw [locate] at h ⊢
    induction path generalizing place with
    | nil =>
      cases h
      exact ⟨links + 1, rfl⟩
    | cons name path ih =>
      rw [walk_cons] at h
      rw [List.cons_append, walk_cons]
      cases hstride : stride root place name with
      | goes place' =>
        rw [hstride] at h
        exact ih h
      | follows target =>
        simp only [hstride] at h
        simp only [← List.append_assoc]
        exact ihlinks h
      | misses => simp [hstride] at h
      | fails fault => simp [hstride] at h

theorem exists_locate_eq_walk (root : Folder) (fresh : Bool) (links : Nat) :
    ∃ follow, locate root fresh links = walk root fresh follow := by
  cases links <;> exact ⟨_, rfl⟩

/-! ## Going down -/

/-- What a path comes to from a folder when it meets no link and does not lead up. -/
def descend (f : Folder) : List FileName → Except IoFault Item
  | [] => .ok (.folder f)
  | name :: path =>
    if name = "" ∨ name = "." then descend f path
    else if maxName < name.bytes.length then .error .nameTooLong
    else
      match f.find? name with
      | none => .error .noEntry
      | some (.folder inside) => descend inside path
      | some (.leaf l) => if path = [] then .ok (.leaf l) else .error .notDirectory

/-- The names of a path that lead away from where it stands. -/
def moves (path : List FileName) : List FileName :=
  path.filter fun n => n ≠ "" ∧ n ≠ "."

theorem moves_cons_of_stays (h : name = "" ∨ name = ".") (path : List FileName) :
    moves (name :: path) = moves path :=
  List.filter_cons_of_neg (by simpa using fun hne => h.resolve_left hne)

theorem moves_cons (h : ¬ (name = "" ∨ name = ".")) (path : List FileName) :
    moves (name :: path) = name :: moves path :=
  List.filter_cons_of_pos (by simpa using h)

theorem moves_append (before path : List FileName) :
    moves (before ++ path) = moves before ++ moves path :=
  List.filter_append ..

theorem moves_eq_self (h : ∀ n ∈ path, n ≠ "" ∧ n ≠ ".") : moves path = path :=
  List.filter_eq_self.2 fun n hn => decide_eq_true (h n hn)

def fetch (root : Folder) (place : List FileName) : Except IoFault Item :=
  match root.at? place with
  | some item => .ok item
  | none => .error .noEntry

theorem lookup_eq (root : Folder) (place path : List FileName) :
    root.lookup place path = (locate root false maxLinks place path).bind root.fetch := by
  rw [lookup]
  cases locate root false maxLinks place path <;> rfl

theorem lookup_eq_ok_iff : root.lookup place path = .ok item ↔
    ∃ reached, locate root false maxLinks place path = .ok reached ∧
      root.at? reached = some item := by
  rw [lookup_eq]
  cases locate root false maxLinks place path with
  | error fault => simp [Except.bind]
  | ok reached => cases hat : root.at? reached <;> simp [Except.bind, fetch, hat]

section Down

variable {fresh : Bool} {follow : List FileName → List FileName → Except IoFault (List FileName)}

theorem walk_of_leaf (hat : root.at? place = some (.leaf l)) (path : List FileName) :
    walk root fresh follow place path = if path = [] then .ok place else .error .notDirectory := by
  cases path with
  | nil => rfl
  | cons name path => rw [walk_cons, stride, hat, if_neg (List.cons_ne_nil name path)]

/-- A step from a proper folder without links, but for one that leads up. -/
theorem stride_down (hat : root.at? place = some (.folder f)) (hf : f.Proper p)
    (hlink : ∀ target, p.leaf (.link target) = false) (hname : name ≠ "..") :
    stride root place name =
      if name = "" ∨ name = "." then .goes place
      else if maxName < name.bytes.length then .fails .nameTooLong
      else if (f.find? name).isSome then .goes (place ++ [name])
      else .misses := by
  simp only [stride, hat, if_neg hname]
  cases hfind : f.find? name with
  | none => rfl
  | some found =>
    cases found with
    | folder inside => rfl
    | leaf l =>
      cases l with
      | link target =>
        have hallowed : p.leaf (.link target) = true := hf.find? hfind
        rw [hlink target] at hallowed
        cases hallowed
      | file blob => rfl
      | device => rfl

/-- From a proper folder without links a path that does not lead up goes down. -/
theorem bind_walk (hat : root.at? place = some (.folder f)) (hf : f.Proper p)
    (hlink : ∀ target, p.leaf (.link target) = false) (hup : (".." : FileName) ∉ path) :
    (walk root false follow place path).bind root.fetch = f.descend path := by
  induction path generalizing place f with
  | nil => rw [walk, Except.bind, fetch, hat, descend]
  | cons name path ih =>
    rw [List.mem_cons, not_or] at hup
    obtain ⟨hname, hup⟩ := hup
    rw [walk_cons, stride_down hat hf hlink (Ne.symm hname), descend]
    by_cases hstay : name = "" ∨ name = "."
    · simp only [if_pos hstay]
      exact ih hat hf hup
    by_cases hlong : maxName < name.bytes.length
    · simp only [if_neg hstay, if_pos hlong]
      rfl
    simp only [if_neg hstay, if_neg hlong]
    have hnext : root.at? (place ++ [name]) = f.at? [name] := at?_append hat [name]
    cases hfind : f.find? name with
    | none => rfl
    | some found =>
      cases found with
      | folder inside =>
        rw [at?_cons_of_folder hfind] at hnext
        exact ih hnext (hf.find? hfind) hup
      | leaf l =>
        -- nothing is below a leaf, so that the path ends here or fails
        rw [at?_cons_of_leaf hfind, if_pos rfl] at hnext
        simp only [Option.isSome_some, if_true, walk_of_leaf hnext]
        split
        · rw [Except.bind, fetch, hnext]
        · rfl

/-- Where such a path leads, if it leads anywhere. -/
theorem eq_of_walk (hat : root.at? place = some (.folder f)) (hf : f.Proper p)
    (hlink : ∀ target, p.leaf (.link target) = false) (hup : (".." : FileName) ∉ path)
    (h : walk root fresh follow place path = .ok reached) : reached = place ++ moves path := by
  induction path generalizing place f with
  | nil =>
    cases h
    simp [moves]
  | cons name path ih =>
    rw [List.mem_cons, not_or] at hup
    obtain ⟨hname, hup⟩ := hup
    rw [walk_cons, stride_down hat hf hlink (Ne.symm hname)] at h
    by_cases hstay : name = "" ∨ name = "."
    · simp only [if_pos hstay] at h
      rw [moves_cons_of_stays hstay]
      exact ih hat hf hup h
    by_cases hlong : maxName < name.bytes.length
    · simp only [if_neg hstay, if_pos hlong] at h
      cases h
    simp only [if_neg hstay, if_neg hlong] at h
    rw [moves_cons hstay, List.append_cons]
    have hnext : root.at? (place ++ [name]) = f.at? [name] := at?_append hat [name]
    cases hfind : f.find? name with
    | none =>
      simp only [hfind, Option.isSome_none, Bool.false_eq_true, if_false] at h
      split at h
      · rename_i hlast
        cases h
        simp [hlast.2, moves]
      · cases h
    | some found =>
      simp only [hfind, Option.isSome_some, if_true] at h
      cases found with
      | folder inside =>
        rw [at?_cons_of_folder hfind] at hnext
        exact ih hnext (hf.find? hfind) hup h
      | leaf l =>
        rw [at?_cons_of_leaf hfind, if_pos rfl] at hnext
        rw [walk_of_leaf hnext] at h
        split at h
        · rename_i hpath
          cases h
          simp [hpath, moves]
        · cases h

end Down

theorem stride_of_at? (hat : root.at? (place ++ [name]) = some (.folder f))
    (hname : IsFileName name) : stride root place name = .goes (place ++ [name]) := by
  obtain ⟨here, hhere, hname'⟩ := exists_folder_of_at? hat (List.cons_ne_nil name [])
  have hfind : here.find? name = some (.folder f) := by
    cases hfind : here.find? name with
    | none =>
      rw [at?_cons_of_none hfind] at hname'
      cases hname'
    | some found =>
      cases found with
      | leaf l =>
        rw [at?_cons_of_leaf hfind, if_pos rfl] at hname'
        cases hname'
      | folder inside =>
        rw [at?_cons_of_folder hfind] at hname'
        rw [← hname', at?_nil]
  simp only [stride, hhere, if_neg (not_or.2 ⟨hname.1.1, hname.2.1⟩), if_neg hname.2.2.1,
    if_neg (Nat.not_lt.2 hname.2.2.2.2), hfind]

section Below

variable (hat : root.at? (place ++ [name]) = some (.folder f)) (hname : IsFileName name)
  (hf : f.Proper p) (hlink : ∀ target, p.leaf (.link target) = false)
  (hup : (".." : FileName) ∉ path)

include hat hname hf hlink hup

theorem lookup_below : root.lookup place (name :: path) = f.descend path := by
  obtain ⟨follow, hwalk⟩ := exists_locate_eq_walk root false maxLinks
  rw [lookup_eq, hwalk, walk_cons, stride_of_at? hat hname]
  exact bind_walk hat hf hlink hup

theorem eq_of_locate {fresh : Bool} {links : Nat}
    (h : locate root fresh links place (name :: path) = .ok reached) :
    reached = place ++ name :: moves path := by
  obtain ⟨follow, hwalk⟩ := exists_locate_eq_walk root fresh links
  rw [hwalk, walk_cons, stride_of_at? hat hname] at h
  rw [List.append_cons]
  exact eq_of_walk hat hf hlink hup h

end Below

/-- What a path comes to in a folder is what the rest of it comes to from there. -/
theorem lookup_append (h : root.lookup place before = .ok (.folder f)) (hf : f.Proper p)
    (hlink : ∀ target, p.leaf (.link target) = false) (hup : (".." : FileName) ∉ path) :
    root.lookup place (before ++ path) = f.descend path := by
  obtain ⟨reached, hlocate, hat⟩ := lookup_eq_ok_iff.1 h
  obtain ⟨links, happend⟩ := locate_append hlocate path
  obtain ⟨follow, hwalk⟩ := exists_locate_eq_walk root false links
  rw [lookup_eq, happend, hwalk, bind_walk hat hf hlink hup]

/-! ## What is in the way of a path -/

/-- Whether something that is no folder stands before the end of a path. -/
def Blocked (f : Folder) (path : List FileName) : Prop :=
  ∃ before after l, path = before ++ after ∧ after ≠ [] ∧ f.at? before = some (.leaf l)

/-- Whether a name of a path that is looked up in a folder is too long. -/
def Overlong (f : Folder) (path : List FileName) : Prop :=
  ∃ before name after inside, path = before ++ name :: after ∧
    f.at? before = some (.folder inside) ∧ maxName < name.bytes.length

theorem not_blocked_nil (f : Folder) : ¬ f.Blocked [] := by
  rintro ⟨before, after, l, hpath, hafter, -⟩
  exact hafter (List.append_eq_nil_iff.1 hpath.symm).2

theorem not_overlong_nil (f : Folder) : ¬ f.Overlong [] := by
  rintro ⟨before, name, after, inside, hpath, -⟩
  simp at hpath

theorem blocked_cons_iff :
    f.Blocked (name :: path) ↔
      (∃ l, f.find? name = some (.leaf l) ∧ path ≠ []) ∨
        ∃ inside, f.find? name = some (.folder inside) ∧ inside.Blocked path := by
  constructor
  · rintro ⟨before, after, l, hpath, hafter, hat⟩
    cases before with
    | nil => cases hat
    | cons n before =>
      obtain ⟨rfl, rfl⟩ := List.cons.inj hpath
      cases hfind : f.find? name with
      | none =>
        rw [at?_cons_of_none hfind] at hat
        cases hat
      | some found =>
        cases found with
        | leaf l' => exact .inl ⟨l', rfl, by simp [hafter]⟩
        | folder inside =>
          rw [at?_cons_of_folder hfind] at hat
          exact .inr ⟨inside, rfl, before, after, l, rfl, hafter, hat⟩
  · rintro (⟨l, hfind, hpath⟩ | ⟨inside, hfind, before, after, l, rfl, hafter, hat⟩)
    · exact ⟨[name], path, l, rfl, hpath, by rw [at?_cons_of_leaf hfind, if_pos rfl]⟩
    · exact ⟨name :: before, after, l, rfl, hafter, by rw [at?_cons_of_folder hfind, hat]⟩

theorem overlong_cons_iff :
    f.Overlong (name :: path) ↔
      maxName < name.bytes.length ∨
        ∃ inside, f.find? name = some (.folder inside) ∧ inside.Overlong path := by
  constructor
  · rintro ⟨before, long, after, inside, hpath, hat, hlong⟩
    cases before with
    | nil =>
      obtain ⟨rfl, -⟩ := List.cons.inj hpath
      exact .inl hlong
    | cons n before =>
      obtain ⟨rfl, rfl⟩ := List.cons.inj hpath
      cases hfind : f.find? name with
      | none =>
        rw [at?_cons_of_none hfind] at hat
        cases hat
      | some found =>
        cases found with
        | leaf l =>
          rw [at?_cons_of_leaf hfind] at hat
          split at hat <;> cases hat
        | folder inside' =>
          rw [at?_cons_of_folder hfind] at hat
          exact .inr ⟨inside', rfl, before, long, after, inside, rfl, hat, hlong⟩
  · rintro (hlong | ⟨inside, hfind, before, long, after, inside', rfl, hat, hlong⟩)
    · exact ⟨[], name, path, f, rfl, rfl, hlong⟩
    · rw [← at?_cons_of_folder hfind] at hat
      exact ⟨name :: before, long, after, inside', rfl, hat, hlong⟩

theorem descend_cons (hstay : name ≠ "" ∧ name ≠ ".") (f : Folder) (path : List FileName) :
    f.descend (name :: path) =
      if maxName < name.bytes.length then .error .nameTooLong
      else
        match f.find? name with
        | none => .error .noEntry
        | some (.folder inside) => inside.descend path
        | some (.leaf l) => if path = [] then .ok (.leaf l) else .error .notDirectory := by
  rw [descend, if_neg (not_or.2 hstay)]

theorem Proper.length_le_of_find? (hf : f.Proper p) (hfind : f.find? name = some item) :
    ¬ maxName < name.bytes.length :=
  Nat.not_lt.2 (hf.admits (mem_names_of_find? hfind)).1.2.2.2.2

theorem descend_of_blocked (hf : f.Proper p) (hstay : ∀ n ∈ path, n ≠ "" ∧ n ≠ ".")
    (h : f.Blocked path) : f.descend path = .error .notDirectory := by
  induction path generalizing f with
  | nil => exact absurd h (not_blocked_nil f)
  | cons name path ih =>
    obtain ⟨hname, hstay⟩ := List.forall_mem_cons.1 hstay
    rw [descend_cons hname]
    rcases blocked_cons_iff.1 h with ⟨l, hfind, hpath⟩ | ⟨inside, hfind, hblocked⟩
    · simp only [if_neg (hf.length_le_of_find? hfind), hfind, if_neg hpath]
    · simp only [if_neg (hf.length_le_of_find? hfind), hfind]
      exact ih (hf.find? hfind) hstay hblocked

theorem descend_of_overlong (hstay : ∀ n ∈ path, n ≠ "" ∧ n ≠ ".") (h : f.Overlong path) :
    f.descend path = .error .nameTooLong := by
  induction path generalizing f with
  | nil => exact absurd h (not_overlong_nil f)
  | cons name path ih =>
    obtain ⟨hname, hstay⟩ := List.forall_mem_cons.1 hstay
    rw [descend_cons hname]
    by_cases hlong : maxName < name.bytes.length
    · rw [if_pos hlong]
    · rcases overlong_cons_iff.1 h with hlong' | ⟨inside, hfind, hbelow⟩
      · exact absurd hlong' hlong
      · simp only [if_neg hlong, hfind]
        exact ih hstay hbelow

/-- With nothing in its way a path that names each step comes to what stands at its place. -/
theorem descend_of_clear (hstay : ∀ n ∈ path, n ≠ "" ∧ n ≠ ".") (hblocked : ¬ f.Blocked path)
    (hlong : ¬ f.Overlong path) : f.descend path = f.fetch path := by
  induction path generalizing f with
  | nil => rfl
  | cons name path ih =>
    obtain ⟨hname, hstay⟩ := List.forall_mem_cons.1 hstay
    rw [overlong_cons_iff, not_or] at hlong
    rw [blocked_cons_iff, not_or] at hblocked
    rw [descend_cons hname, if_neg hlong.1, fetch]
    cases hfind : f.find? name with
    | none => rw [at?_cons_of_none hfind]
    | some found =>
      cases found with
      | leaf l =>
        have hpath : path = [] := Decidable.not_not.1 fun hne => hblocked.1 ⟨l, hfind, hne⟩
        simp only [at?_cons_of_leaf hfind, if_pos hpath]
      | folder inside =>
        rw [at?_cons_of_folder hfind]
        exact ih hstay (fun h => hblocked.2 ⟨inside, hfind, h⟩) fun h => hlong.2 ⟨inside, hfind, h⟩

/-- Nothing is in the way of what a proper folder holds. -/
theorem Proper.descend_of_at? (hf : f.Proper p) (hat : f.at? path = some item) :
    f.descend path = .ok item := by
  have hnames : ∀ n ∈ path, IsFileName n := hf.isFileName hat
  have hblocked : ¬ f.Blocked path := by
    rintro ⟨before, after, l, rfl, hafter, hbefore⟩
    obtain ⟨inside, hinside, -⟩ := exists_folder_of_at? hat hafter
    rw [hbefore] at hinside
    cases hinside
  have hlong : ¬ f.Overlong path := by
    rintro ⟨before, name, after, inside, rfl, -, hlong⟩
    exact Nat.not_lt.2 (hnames name (by simp)).2.2.2.2 hlong
  rw [descend_of_clear (fun n hn => ⟨(hnames n hn).1.1, (hnames n hn).2.1⟩) hblocked hlong, fetch,
    hat]

/-- What a path comes to stands where its moves lead. -/
theorem at?_of_descend (h : f.descend path = .ok item) : f.at? (moves path) = some item := by
  induction path generalizing f with
  | nil =>
    cases h
    rfl
  | cons name path ih =>
    rw [descend] at h
    by_cases hstay : name = "" ∨ name = "."
    · rw [if_pos hstay] at h
      rw [moves_cons_of_stays hstay]
      exact ih h
    · rw [if_neg hstay] at h
      rw [moves_cons hstay]
      split at h
      · cases h
      · cases hfind : f.find? name with
        | none => simp [hfind] at h
        | some found =>
          cases found with
          | leaf l =>
            simp only [hfind] at h
            split at h
            · rename_i hpath
              obtain rfl := Except.ok.inj h
              rw [hpath, at?_cons_of_leaf hfind, moves, List.filter_nil, if_pos rfl]
            · cases h
          | folder inside =>
            simp only [hfind] at h
            rw [at?_cons_of_folder hfind]
            exact ih h

end BlobDepot.Folder
