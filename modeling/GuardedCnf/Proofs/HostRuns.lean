import GuardedCnf.Host
import GuardedCnf.Proofs.Courses
import GuardedCnf.Proofs.Outcomes
/-! # Host runs — what sessions do to the files of a host

    The files of a host are all nodes of its tree, the folders with the names in
    them included; a reader of a pipe moves on in it, and that is no change.  A
    session on a host follows one of its courses, and the files change only
    where the course has actions. -/

namespace GuardedCnf

/-- A node, however much of it is read. -/
def Node.content : Node → Node
  | .pipe bytes _ => .pipe bytes 0
  | n => n

namespace Host

variable {α : Type} {launcher : Launcher} {name : String} {host g host' : Host}

/-- The nodes of a host. -/
def files (host : Host) : Array Node := host.tree.nodes.map Node.content

/-! ## Requests that are no actions. -/

/-- A change that keeps the contents of nodes keeps the files. -/
theorem files_modify (host : Host) (id : NodeId) {f : Node → Node}
    (hf : ∀ n, (f n).content = n.content) :
    files { host with tree := host.tree.modify id f } = host.files := by
  unfold files Tree.modify
  refine Array.ext (by simp) fun i _ _ => ?_
  simp only [Array.getElem_map, Array.getElem_modify]
  split
  · exact hf _
  · rfl

/-- Reading changes no files. -/
theorem files_read (host : Host) (number : Nat) (most : Option Nat) :
    (host.read number most).2.files = host.files := by
  unfold read
  dsimp only
  split
  · rfl
  · refine files_modify host _ fun n => ?_
    cases n <;> rfl
  · rfl
  · rfl
  · rfl
  · rfl

/-- Opening for reading changes no tree. -/
theorem tree_openPath_read {streams : Nat → Option NodeId} {folder : NodeId} {path : String}
    {number : Nat} (h : host.openPath streams folder path .read = .ok (number, g)) :
    g.tree = host.tree := by
  unfold openPath at h
  obtain ⟨found, -, hopened⟩ := except_bind_ok.1 h
  cases found with
  | free folder name => exact nomatch hopened
  | node id =>
      dsimp only at hopened
      split at hopened
      · exact nomatch hopened
      · cases hopened
        rfl

/-- What is opened for reading stays as it is. -/
theorem tree_openFor_read {path : String} {number : Nat}
    (h : host.openFor path .read = .ok (number, g)) : g.tree = host.tree := by
  unfold openFor at h
  split at h
  · exact nomatch h
  · exact tree_openPath_read h

/-- Only actions change files. -/
theorem files_answer (launcher : Launcher) (name : String) {r : Request}
    (hr : r.isAction = false) (host : Host) :
    (answer launcher name r host).2.files = host.files := by
  cases r with
  | load path =>
      dsimp only [answer]
      cases hopen : host.openFor path .read with
      | error e => rfl
      | ok opened =>
          dsimp only
          rw [files_read, files, tree_openFor_read hopen]
          rfl
  | create path => exact nomatch hr
  | write file text => exact nomatch hr
  | print text => exact nomatch hr
  | report text => exact nomatch hr
  | launch l => exact nomatch hr
  | observe e => rfl
  | clock => rfl
  | date => rfl
  | limit ms => rfl
  | expired => rfl

/-! ## Sessions on a host. -/

/-- On a host, the given actions are all that changes files on the way to
    another state of it. -/
inductive Undergoes (launcher : Launcher) (name : String) : List Exchange → Host → Host → Prop where
  | rest {host host' : Host} (same : host'.files = host.files) :
      Undergoes launcher name [] host host'
  | act {x : Exchange} {xs : List Exchange} {host g host' : Host} (same : g.files = host.files)
      (answered : (answer launcher name x.request g).1 = x.answer)
      (further : Undergoes launcher name xs (answer launcher name x.request g).2 host') :
      Undergoes launcher name (x :: xs) host host'

/-- What exchanges do to a host depends on its files alone. -/
theorem Undergoes.of_files {xs : List Exchange} (hsame : g.files = host.files)
    (h : Undergoes launcher name xs g host') : Undergoes launcher name xs host host' := by
  cases h with
  | rest same => exact .rest (same.trans hsame)
  | act same answered further => exact .act (same.trans hsame) answered further

/-- A session on a host goes through a course, whose actions are all that
    changes files. -/
theorem undergoes_run (launcher : Launcher) (name : String) (x : Session α) (host : Host) :
    ∃ xs, x.Course xs (host.run launcher name x).1 ∧
      Undergoes launcher name (actions xs) host (host.run launcher name x).2 := by
  induction x generalizing host with
  | done a => exact ⟨[], .done a, .rest rfl⟩
  | ask r next ih =>
      obtain ⟨xs, hcourse, hrun⟩ :=
        ih (answer launcher name r host).1 (answer launcher name r host).2
      refine ⟨⟨r, (answer launcher name r host).1⟩ :: xs, .ask _ hcourse, ?_⟩
      -- either the files before the rest are the same ones, or the action is told first
      cases hr : r.isAction with
      | false =>
          rw [actions_cons_of_neg hr]
          exact hrun.of_files (files_answer launcher name hr host)
      | true =>
          rw [actions_cons_of_pos hr]
          exact .act rfl rfl hrun

/-! ## Opening a file for results. -/

/-- The file that a path leads to is made empty, or made. -/
inductive Empties (path : String) (host host' : Host) : Prop where
  | old (id : NodeId)
      (found : host.tree.findTarget host.streams Tree.working (Octets.ofText path) = .ok (.node id))
      (files : host'.files = (host.clear id).files)
  | new (folder : NodeId) (name : String)
      (found : host.tree.findTarget host.streams Tree.working (Octets.ofText path)
        = .ok (.free folder name))
      (files : host'.files
        = Host.files { host with tree := (host.tree.insert folder name (.file .empty false)).2 })

/-- Opening a path to create a file empties it. -/
theorem empties_openFor {path : String} {number : Nat}
    (h : host.openFor path .create = .ok (number, g)) : host.Empties path g := by
  unfold openFor at h
  split at h
  · exact nomatch h
  · unfold openPath at h
    obtain ⟨found, hfound, hopened⟩ := except_bind_ok.1 h
    cases found with
    | free folder name =>
        cases hopened
        exact .new folder name hfound rfl
    | node id =>
        dsimp only at hopened
        split at hopened
        · exact nomatch hopened
        · split at hopened
          · exact nomatch hopened
          · cases hopened
            exact .old id hfound rfl

/-- What else happens to a host is of no matter while its files stay. -/
theorem Empties.of_files {path : String} (h : host.Empties path g)
    (hsame : host'.files = g.files) : host.Empties path host' := by
  cases h with
  | old id found files => exact .old id found (hsame.trans files)
  | new folder name found files => exact .new folder name found (hsame.trans files)

/-- A file that is created is empty. -/
theorem empties_create {path : String} {file : OpenFile}
    (h : (answer launcher name (.create path) host).1 = .ok file) :
    host.Empties path (answer launcher name (.create path) host).2 := by
  dsimp only [answer] at h ⊢
  cases hopen : host.openFor path .create with
  | error e =>
      rw [hopen] at h
      exact nomatch h
  | ok opened => exact empties_openFor hopen

end Host

end GuardedCnf
