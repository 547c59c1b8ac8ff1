-- A recursive depth-first search for a cycle, on a call stack of bounded depth: what it answers, and
-- for which graphs the stack is too small.
import Mathlib.Logic.Relation
import Mathlib.Data.List.Nodup
import Mathlib.Data.List.Perm.Subperm

namespace depth_first

variable {V : Type}

inductive Failure
  | cycle
  | overflow
  deriving DecidableEq, Repr

section search

variable [DecidableEq V] (children : V → List V)

/-- The calls for the nodes of a list, one after the other, from the nodes finished so far. -/
def visitAll (visit : List V → V → Except Failure (List V)) : List V → List V → Except Failure (List V)
  | finished, [] => .ok finished
  | finished, n :: rest => do
    let finished ← visit finished n
    visitAll visit finished rest

/-- The call for a node. `room` more calls fit on the stack, and `path` are the nodes whose calls are
open, the innermost first. -/
def visit : (room : Nat) → (path finished : List V) → V → Except Failure (List V)
  | 0, _, _, _ => .error .overflow
  | room + 1, path, finished, n =>
    if n ∈ finished then .ok finished
    else if n ∈ path then .error .cycle
    else do
      let finished ← visitAll (visit room (n :: path)) finished (children n)
      return n :: finished

/-- The search from all roots. -/
def search (room : Nat) (roots : List V) : Except Failure (List V) :=
  visitAll (visit children room []) [] roots

end search

/-! ## Graphs -/

section graphs

variable (children : V → List V)

def Edge (a b : V) : Prop := b ∈ children a

def Reaches : V → V → Prop := Relation.ReflTransGen (Edge children)

def OnCycle (v : V) : Prop := Relation.TransGen (Edge children) v v

/-- A node that a node of the list reaches. -/
def From (roots : List V) (v : V) : Prop := ∃ r ∈ roots, Reaches children r v

/-- No node of the list reaches a cycle. -/
def Acyclic (roots : List V) : Prop := ∀ v, From children roots v → ¬ OnCycle children v

variable {children} {roots rest : List V} {n v : V}

theorem from_append : From children (roots ++ rest) v ↔
    From children roots v ∨ From children rest v := by
  simp [From, or_and_right, exists_or]

theorem from_singleton : From children [n] v ↔ Reaches children n v := by
  simp [From]

theorem from_nil : ¬ From children [] v := by
  simp [From]

theorem acyclic_append : Acyclic children (roots ++ rest) ↔
    Acyclic children roots ∧ Acyclic children rest := by
  simp [Acyclic, from_append, or_imp, forall_and]

theorem acyclic_nil : Acyclic children [] := fun _ h => absurd h from_nil

/-- What a node reaches is the node itself and what its children reach. -/
theorem reaches_iff : Reaches children n v ↔ v = n ∨ From children (children n) v := by
  constructor
  · intro h
    obtain rfl | ⟨c, hc, hv⟩ := Relation.ReflTransGen.cases_head h
    · exact .inl rfl
    · exact .inr ⟨c, hc, hv⟩
  · rintro (rfl | ⟨c, hc, hv⟩)
    · exact .refl
    · exact .head hc hv

/-- A node is on a cycle when a child of it reaches it. -/
theorem onCycle_iff : OnCycle children n ↔ From children (children n) n := by
  unfold OnCycle
  rw [Relation.TransGen.head'_iff]
  exact Iff.rfl

end graphs

/-! ## The list of calls -/

section lists

variable {visit : List V → V → Except Failure (List V)} {finished finished' rest rest' : List V}
  {failure : Failure}

theorem visitAll_append : visitAll visit finished (rest ++ rest') =
    visitAll visit finished rest >>= fun finished => visitAll visit finished rest' := by
  induction rest generalizing finished with
  | nil => rfl
  | cons n rest ih =>
    simp only [List.cons_append, visitAll]
    cases visit finished n with
    | error failure => rfl
    | ok finished => exact ih

/-- The first call that fails, with the calls before it. -/
theorem visitAll_error (h : visitAll visit finished rest = .error failure) :
    ∃ before n after finished', rest = before ++ n :: after ∧
      visitAll visit finished before = .ok finished' ∧ visit finished' n = .error failure := by
  induction rest generalizing finished with
  | nil => cases h
  | cons n rest ih =>
    unfold visitAll at h
    cases hn : visit finished n with
    | error failure' =>
      rw [hn] at h
      cases h
      exact ⟨[], n, rest, finished, rfl, rfl, hn⟩
    | ok finished' =>
      rw [hn] at h
      obtain ⟨before, m, after, finished'', rfl, hbefore, hm⟩ := ih h
      refine ⟨n :: before, m, after, finished'', rfl, ?_, hm⟩
      unfold visitAll
      rw [hn]
      exact hbefore

end lists

/-! ## What the search answers -/

section answers

variable {children : V → List V} {path roots finished finished' rest : List V} {n : V}

variable (children) in
/-- The nodes finished are those that the roots reach, among them no cycle and no open node. -/
structure State (path roots finished : List V) : Prop where
  mem_iff : ∀ v, v ∈ finished ↔ From children roots v
  acyclic : Acyclic children roots
  open_nodes : ∀ p ∈ path, p ∉ finished

theorem State.init : State children [] [] [] :=
  ⟨fun _ => by simp [from_nil], acyclic_nil, fun _ h => absurd h List.not_mem_nil⟩

theorem State.cons (h : State children path roots finished) (hn : n ∉ finished) :
    State children (n :: path) roots finished :=
  ⟨h.mem_iff, h.acyclic, List.forall_mem_cons.mpr ⟨hn, h.open_nodes⟩⟩

/-- A node already finished adds nothing. -/
theorem State.again (h : State children path roots finished) (hn : n ∈ finished) :
    State children path (roots ++ [n]) finished := by
  have hfrom : ∀ v, From children (roots ++ [n]) v ↔ From children roots v := by
    intro v
    rw [from_append, from_singleton]
    refine ⟨fun hv => hv.elim id fun hv => ?_, .inl⟩
    obtain ⟨r, hr, hrn⟩ := (h.mem_iff n).mp hn
    exact ⟨r, hr, hrn.trans hv⟩
  refine ⟨fun v => (h.mem_iff v).trans (hfrom v).symm, fun v hv => ?_, h.open_nodes⟩
  exact h.acyclic v ((hfrom v).mp hv)

/-- Once its children are finished, a node is: it is on no cycle, since it is open all along. -/
theorem State.finish (h : State children (n :: path) (roots ++ children n) finished)
    (hn : n ∉ path) : State children path (roots ++ [n]) (n :: finished) := by
  obtain ⟨hopen, hpath⟩ := List.forall_mem_cons.mp h.open_nodes
  obtain ⟨hroots, hchildren⟩ := acyclic_append.mp h.acyclic
  refine ⟨fun v => ?_, acyclic_append.mpr ⟨hroots, fun v hv => ?_⟩, fun p hp => ?_⟩
  · rw [List.mem_cons, h.mem_iff, from_append, from_append, from_singleton, reaches_iff]
    tauto
  · rw [from_singleton, reaches_iff] at hv
    obtain rfl | hv := hv
    · intro hcycle
      refine hopen ((h.mem_iff v).mpr ?_)
      exact from_append.mpr (.inr (onCycle_iff.mp hcycle))
    · exact hchildren v hv
  · rw [List.mem_cons, not_or]
    exact ⟨fun hpn => hn (hpn ▸ hp), hpath p hp⟩

theorem visitAll_ok {visit : List V → V → Except Failure (List V)}
    (hvisit : ∀ {roots finished n finished'}, State children path roots finished →
      visit finished n = .ok finished' → State children path (roots ++ [n]) finished')
    (h : State children path roots finished) (hok : visitAll visit finished rest = .ok finished') :
    State children path (roots ++ rest) finished' := by
  induction rest generalizing roots finished with
  | nil =>
    cases hok
    rw [List.append_nil]
    exact h
  | cons n rest ih =>
    unfold visitAll at hok
    cases hn : visit finished n with
    | error failure =>
      rw [hn] at hok
      cases hok
    | ok finished'' =>
      rw [hn] at hok
      have hstate := ih (hvisit h hn) hok
      rw [List.append_assoc] at hstate
      exact hstate

variable [DecidableEq V]

/-- A call that returns finishes what its node reaches. -/
theorem visit_ok {room : Nat} (h : State children path roots finished)
    (hok : visit children room path finished n = .ok finished') :
    State children path (roots ++ [n]) finished' := by
  induction room generalizing path roots finished n finished' with
  | zero => cases hok
  | succ room ih =>
    unfold visit at hok
    split_ifs at hok with hfinished hopen
    · cases hok
      exact h.again hfinished
    · cases hall : visitAll (visit children room (n :: path)) finished (children n) with
      | error failure =>
        rw [hall] at hok
        cases hok
      | ok finished'' =>
        rw [hall] at hok
        cases hok
        exact (visitAll_ok ih (h.cons hfinished) hall).finish hopen

/-- A call that reports a cycle has one that its node reaches. -/
theorem visit_cycle {room : Nat} (hpath : ∀ p ∈ path, Relation.TransGen (Edge children) p n)
    (hcycle : visit children room path finished n = .error .cycle) : ¬ Acyclic children [n] := by
  induction room generalizing path finished n with
  | zero => cases hcycle
  | succ room ih =>
    unfold visit at hcycle
    split_ifs at hcycle with hfinished hopen
    · intro h
      exact h n (from_singleton.mpr .refl) (hpath n hopen)
    · cases hall : visitAll (visit children room (n :: path)) finished (children n) with
      | ok finished' =>
        rw [hall] at hcycle
        cases hcycle
      | error failure =>
        rw [hall] at hcycle
        cases hcycle
        obtain ⟨before, c, after, finished', hchildren, -, hc⟩ := visitAll_error hall
        have hedge : Edge children n c := by
          unfold Edge
          rw [hchildren]
          simp
        have hpath' : ∀ p ∈ n :: path, Relation.TransGen (Edge children) p c :=
          List.forall_mem_cons.mpr ⟨.single hedge, fun p hp => (hpath p hp).tail hedge⟩
        intro h
        refine ih hpath' hc fun v hv => h v ?_
        rw [from_singleton] at hv ⊢
        exact .head hedge hv

end answers

/-! ## When the stack is too small -/

section depth

/-- The nodes that the innermost open call is about to call. -/
def candidates (children : V → List V) (roots : List V) : List V → List V
  | [] => roots
  | n :: _ => children n

/-- The calls that come to be open at once: each for a node that was not met before, with no cycle
before it. Named first are the nodes that were called and left before them. -/
inductive Opened (children : V → List V) (roots : List V) : List V → List V → Prop
  | nil : Opened children roots [] []
  | cons {earlier chain before after : List V} {n : V} : Opened children roots earlier chain →
      candidates children roots chain = before ++ n :: after → n ∉ chain →
      Acyclic children before → ¬ From children (earlier ++ before) n →
      Opened children roots (earlier ++ before) (n :: chain)

/-- Somewhere as many calls are open as fit on the stack, and there is one more to make. -/
def TooDeep (children : V → List V) (room : Nat) (roots : List V) : Prop :=
  ∃ earlier chain, Opened children roots earlier chain ∧ chain.length = room ∧
    candidates children roots chain ≠ []

variable {children : V → List V} {room : Nat}
  {path roots roots' earlier before after chain finished : List V} {n : V}

/-- From every open node an edge path leads to the nodes to be called next. -/
theorem Opened.leads (h : Opened children roots earlier chain) :
    ∀ p ∈ chain, ∀ c ∈ candidates children roots chain, Relation.TransGen (Edge children) p c := by
  induction h with
  | nil => exact fun p hp => absurd hp List.not_mem_nil
  | cons hopened hcandidates _ _ _ ih =>
    intro p hp c hc
    obtain rfl | hp := List.mem_cons.mp hp
    · exact .single hc
    · refine (ih p hp _ ?_).tail hc
      rw [hcandidates]
      simp

/-- The open nodes are different nodes of the graph. -/
theorem Opened.nodup {nodes : List V} (h : Opened children roots earlier chain)
    (hroots : ∀ n ∈ roots, n ∈ nodes) (hchildren : ∀ n, ∀ c ∈ children n, c ∈ nodes) :
    chain.Nodup ∧ ∀ n ∈ chain, n ∈ nodes := by
  induction h with
  | nil => exact ⟨List.nodup_nil, fun n hn => absurd hn List.not_mem_nil⟩
  | @cons earlier chain before after n hopened hcandidates hopen _ _ ih =>
    obtain ⟨hnodup, hnodes⟩ := ih
    have hmem : n ∈ candidates children roots chain := by
      rw [hcandidates]
      simp
    refine ⟨List.nodup_cons.mpr ⟨hopen, hnodup⟩, List.forall_mem_cons.mpr ⟨?_, hnodes⟩⟩
    cases chain with
    | nil => exact hroots n hmem
    | cons m chain => exact hchildren m n hmem

/-- A stack with room for all nodes and one more is large enough. -/
theorem not_tooDeep_of_length {nodes : List V} (hroots : ∀ n ∈ roots, n ∈ nodes)
    (hchildren : ∀ n, ∀ c ∈ children n, c ∈ nodes) (hroom : nodes.length < room) :
    ¬ TooDeep children room roots := by
  rintro ⟨earlier, chain, hopened, rfl, -⟩
  obtain ⟨hnodup, hnodes⟩ := hopened.nodup hroots hchildren
  have hle := (hnodup.subperm hnodes).length_le
  omega

variable [DecidableEq V]

/-- Where a call overflows, the open calls are too many. -/
theorem tooDeep_of_visit (hopened : Opened children roots earlier path)
    (hcandidates : candidates children roots path = before ++ n :: after)
    (hstate : State children path (earlier ++ before) finished)
    (h : visit children room path finished n = .error .overflow) :
    TooDeep children (path.length + room) roots := by
  induction room generalizing path earlier before after finished n with
  | zero =>
    refine ⟨earlier, path, hopened, rfl, ?_⟩
    rw [hcandidates]
    simp
  | succ room ih =>
    unfold visit at h
    split_ifs at h with hfinished hopen
    · cases h
    · cases hall : visitAll (visit children room (n :: path)) finished (children n) with
      | ok finished' =>
        rw [hall] at h
        cases h
      | error failure =>
        rw [hall] at h
        cases h
        obtain ⟨before', c, after', finished', hchildren, hbefore, hc⟩ := visitAll_error hall
        have hacyclic := (acyclic_append.mp hstate.acyclic).2
        have hnew : ¬ From children (earlier ++ before) n := fun hfrom =>
          hfinished ((hstate.mem_iff n).mpr hfrom)
        have hdeep := ih (hopened.cons hcandidates hopen hacyclic hnew) hchildren
          (visitAll_ok visit_ok (hstate.cons hfinished) hbefore) hc
        rw [List.length_cons, Nat.add_assoc, Nat.add_comm 1 room] at hdeep
        exact hdeep

/-- Where the calls for the nodes of a chain would overflow, the search does. -/
theorem Opened.overflow (h : Opened children roots earlier chain) (hroom : chain.length ≤ room)
    (hchain : ∀ finished, State children chain earlier finished →
      visitAll (visit children (room - chain.length) chain) finished
        (candidates children roots chain) = .error .overflow) :
    search children room roots = .error .overflow := by
  induction h with
  | nil => exact hchain [] State.init
  | @cons earlier chain before after n hopened hcandidates hopen hacyclic hnew ih =>
    rw [List.length_cons] at hroom
    refine ih (by omega) fun finished hstate => ?_
    rw [hcandidates, visitAll_append]
    cases hbefore : visitAll (visit children (room - chain.length) chain) finished before with
    | error failure =>
      cases failure with
      | overflow => rfl
      | cycle =>
        obtain ⟨before', c, after', finished', rfl, -, hc⟩ := visitAll_error hbefore
        have hpath : ∀ p ∈ chain, Relation.TransGen (Edge children) p c := fun p hp =>
          hopened.leads p hp c (by rw [hcandidates]; simp)
        refine absurd (fun v hv => hacyclic v ?_) (visit_cycle hpath hc)
        exact ⟨c, by simp, from_singleton.mp hv⟩
    | ok finished' =>
      have hstate' := visitAll_ok visit_ok hstate hbefore
      have hfinished : n ∉ finished' := fun hn => hnew ((hstate'.mem_iff n).mp hn)
      have hlength : room - chain.length = room - (n :: chain).length + 1 := by
        rw [List.length_cons]
        omega
      have hoverflow := hchain finished' (hstate'.cons hfinished)
      have hn : visit children (room - chain.length) chain finished' n = .error .overflow := by
        rw [hlength, visit, if_neg hfinished, if_neg hopen]
        rw [show children n = candidates children roots (n :: chain) from rfl, hoverflow]
        rfl
      rw [show (Except.ok finished' >>= fun finished =>
        visitAll (visit children (room - chain.length) chain) finished (n :: after)) =
        visitAll (visit children (room - chain.length) chain) finished' (n :: after) from rfl]
      rw [visitAll, hn]
      rfl

/-- The search overflows exactly on the graphs that are too deep for it. -/
theorem search_overflow : search children room roots = .error .overflow ↔
    TooDeep children room roots := by
  constructor
  · intro h
    obtain ⟨before, n, after, finished, hroots, hbefore, hn⟩ := visitAll_error h
    have hstate := visitAll_ok visit_ok State.init hbefore
    have hdeep := tooDeep_of_visit Opened.nil hroots hstate hn
    rwa [List.length_nil, Nat.zero_add] at hdeep
  · rintro ⟨earlier, chain, hopened, rfl, hcandidates⟩
    refine hopened.overflow (Nat.le_refl _) fun finished _ => ?_
    obtain ⟨c, rest, hc⟩ := List.exists_cons_of_ne_nil hcandidates
    rw [hc, Nat.sub_self]
    rfl

/-- A search that returns has met no cycle. -/
theorem search_ok (h : search children room roots = .ok finished) : Acyclic children roots :=
  (visitAll_ok visit_ok State.init h).acyclic

theorem search_cycle (h : search children room roots = .error .cycle) :
    ¬ Acyclic children roots := by
  obtain ⟨before, n, after, finished, rfl, -, hn⟩ := visitAll_error h
  intro hacyclic
  refine visit_cycle (fun p hp => absurd hp List.not_mem_nil) hn fun v hv => hacyclic v ?_
  rw [from_singleton] at hv
  exact ⟨n, by simp, hv⟩

/-- With room on the stack the search tells the graphs with a cycle, and only so. -/
theorem search_exact_iff :
    ((search children room roots = .error .cycle ↔ ¬ Acyclic children roots) ∧
      search children room roots ≠ .error .overflow) ↔ ¬ TooDeep children room roots := by
  rw [← search_overflow]
  refine ⟨fun h => h.2, fun h => ⟨⟨search_cycle, fun hcycle => ?_⟩, h⟩⟩
  cases hs : search children room roots with
  | ok finished => exact absurd (search_ok hs) hcycle
  | error failure =>
    cases failure with
    | cycle => rfl
    | overflow => exact absurd hs h

end depth

end depth_first
