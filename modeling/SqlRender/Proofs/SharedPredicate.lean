import SqlRender.Predicate.Pool
import SqlRender.Proofs.Outcome

/-!
# Shared predicates as plain ones

Predicates that callers hold by name are nodes that share their children. As long as no child is
added later, that does not show: a name stands for what the plain operations on predicates give, and
a run over a pool ends as the plain run does. A child that is added later is added to the predicate
with the name.

* `Pool.Ordered`: children stand in front of their parents, so values do not depend on the fuel.
* `Pool.Extends.add`: a new node leaves the predicates of the others as they were.
* `Pool.Shows.step`, `Pool.Shows.run`: one operation, and a run of them.
* `Pool.valueOf_run`: what a name stands for after a run.
* `Pool.Ordered.push`, `Pool.Shows.push`: what predicates are after a child was added to one.
-/

namespace SqlRender

namespace Pool

variable {p : Pool}

/-! ## The predicate at a place -/

/-- The predicate at a place. -/
def predicateAt (p : Pool) (index : Nat) : Predicate where
  children := (p.node index).children.map fun
    | .node child => p.expand p.nodes.length child
    | .value _ v => v
  connector := (p.node index).connector
  negated := (p.node index).negated

def childValue (p : Pool) : Child → Value
  | .node child => (p.predicateAt child).toValue
  | .value _ v => v

/-- The predicate that a node would be in a pool. -/
def predicateOf (p : Pool) (n : Node) : Predicate :=
  ⟨n.children.map p.childValue, n.connector, n.negated⟩

/-- The children that are nodes stand in front of a place. -/
def Node.Before (n : Node) (index : Nat) : Prop := ∀ child, .node child ∈ n.children → child < index

/-- Children stand in front of their parents, and names belong to nodes. -/
structure Ordered (p : Pool) : Prop where
  nodes : ∀ index, (p.node index).Before index
  names : ∀ name index, Assoc.get? name p.names = some index → index < p.nodes.length

theorem lt_length_of_mem {index : Nat} {child : Child} (h : child ∈ (p.node index).children) :
    index < p.nodes.length := by
  by_contra hge
  rw [node, List.getElem?_eq_none (Nat.le_of_not_lt hge)] at h
  cases h

/-- Children that are values count as they are, so only those that are nodes can differ. -/
theorem map_children_congr {children : List Child} {f g : Nat → Value}
    (h : ∀ child, .node child ∈ children → f child = g child) :
    (children.map fun
      | .node child => f child
      | .value _ v => v) = children.map fun
      | .node child => g child
      | .value _ v => v := by
  refine List.map_congr_left fun child hchild => ?_
  cases child with
  | value number v => rfl
  | node c => exact h c hchild

/-- Fuel that reaches the place reaches its children. -/
theorem Ordered.expand_eq (h : p.Ordered) {index fuel fuel' : Nat} (hfuel : index < fuel)
    (hfuel' : index < fuel') : p.expand fuel index = p.expand fuel' index := by
  induction index using Nat.strongRecOn generalizing fuel fuel' with
  | ind index ih =>
    obtain ⟨fuel, rfl⟩ := Nat.exists_eq_add_one_of_ne_zero (Nat.ne_zero_of_lt hfuel)
    obtain ⟨fuel', rfl⟩ := Nat.exists_eq_add_one_of_ne_zero (Nat.ne_zero_of_lt hfuel')
    rw [expand, expand]
    congr 1
    refine map_children_congr fun c hchild => ?_
    have hc : c < index := h.nodes index c hchild
    exact ih c hc (by omega) (by omega)

theorem Ordered.predicateAt_eq (h : p.Ordered) (index : Nat) :
    p.predicateAt index = p.predicateOf (p.node index) := by
  rw [predicateAt, predicateOf]
  congr 1
  refine map_children_congr fun c hchild => ?_
  have hc : c < index := h.nodes index c hchild
  have hindex := lt_length_of_mem hchild
  show p.expand p.nodes.length c = p.expand (p.nodes.length + 1) c
  exact h.expand_eq (by omega) (by omega)

theorem predicateAt_congr {q : Pool} (h : q.nodes = p.nodes) : q.predicateAt = p.predicateAt := by
  have hnode : q.node = p.node := by
    funext index
    rw [node, node, h]
  have hexpand : ∀ fuel index, q.expand fuel index = p.expand fuel index := by
    intro fuel
    induction fuel with
    | zero => exact fun _ => rfl
    | succ fuel ih =>
      intro index
      simp only [expand, hnode, ih]
  funext index
  simp only [predicateAt, hnode, hexpand, h]

theorem childValue_congr {q : Pool} (h : q.nodes = p.nodes) : q.childValue = p.childValue := by
  funext child
  cases child with
  | value number v => rfl
  | node c => rw [childValue, childValue, predicateAt_congr h]

/-- What stands in front of a place does not depend on the nodes from there on. -/
theorem Ordered.expand_front (h : p.Ordered) {q : Pool} {bound : Nat}
    (hnode : ∀ i < bound, q.node i = p.node i) {index : Nat} (hindex : index < bound) (fuel : Nat) :
    q.expand fuel index = p.expand fuel index := by
  induction fuel generalizing index with
  | zero => rfl
  | succ fuel ih =>
    rw [expand, expand, hnode index hindex]
    congr 1
    exact map_children_congr fun c hchild => ih (Nat.lt_trans (h.nodes index c hchild) hindex)

theorem Ordered.predicateAt_front (h : p.Ordered) {q : Pool} {bound : Nat}
    (hnode : ∀ i < bound, q.node i = p.node i) (hp : bound ≤ p.nodes.length)
    (hq : bound ≤ q.nodes.length) {index : Nat} (hindex : index < bound) :
    q.predicateAt index = p.predicateAt index := by
  rw [predicateAt, predicateAt, hnode index hindex]
  congr 1
  refine map_children_congr fun c hchild => ?_
  have hc : c < index := h.nodes index c hchild
  rw [h.expand_front hnode (by omega), h.expand_eq (by omega) (by omega : c < p.nodes.length)]

/-- A node is the same predicate in pools whose predicates are the same where its children stand. -/
theorem predicateOf_congr {q : Pool} {n : Node} {bound : Nat} (hn : n.Before bound)
    (h : ∀ index < bound, q.predicateAt index = p.predicateAt index) :
    q.predicateOf n = p.predicateOf n := by
  rw [predicateOf, predicateOf]
  congr 1
  exact map_children_congr fun c hchild => congrArg Predicate.toValue (h c (hn c hchild))

theorem isEmpty_predicateOf (p : Pool) (n : Node) :
    (p.predicateOf n).isEmpty = n.children.isEmpty := by
  simp [predicateOf, Predicate.isEmpty]

/-! ## New nodes -/

theorem node_add_of_lt (p : Pool) (n : Node) {index : Nat} (h : index < p.nodes.length) :
    (p.add n).1.node index = p.node index := by
  rw [node, node, add, List.getElem?_append_left h]

theorem node_add_self (p : Pool) (n : Node) : (p.add n).1.node p.nodes.length = n := by
  simp [node, add]

/-- The second pool has the nodes and names of the first, and maybe more nodes. -/
structure Extends (p p' : Pool) : Prop where
  ordered : p'.Ordered
  names : p'.names = p.names
  length_le : p.nodes.length ≤ p'.nodes.length
  predicateAt_eq : ∀ index < p.nodes.length, p'.predicateAt index = p.predicateAt index

theorem Extends.trans {p' p'' : Pool} (h : p.Extends p') (h' : p'.Extends p'') : p.Extends p'' where
  ordered := h'.ordered
  names := h'.names.trans h.names
  length_le := Nat.le_trans h.length_le h'.length_le
  predicateAt_eq index hindex :=
    (h'.predicateAt_eq index (Nat.lt_of_lt_of_le hindex h.length_le)).trans
      (h.predicateAt_eq index hindex)

theorem Extends.before {p' : Pool} (h : p.Extends p') {n : Node} (hn : n.Before p.nodes.length) :
    n.Before p'.nodes.length :=
  fun child hchild => Nat.lt_of_lt_of_le (hn child hchild) h.length_le

/-- A node whose children are there can be added. -/
theorem Extends.add (h : p.Ordered) {n : Node} (hn : n.Before p.nodes.length) :
    p.Extends (p.add n).1 := by
  have hlength : (p.add n).1.nodes.length = p.nodes.length + 1 := by simp [Pool.add]
  refine ⟨⟨fun index => ?_, fun name index hname => ?_⟩, rfl, by omega,
    fun index => h.predicateAt_front (fun i => node_add_of_lt p n) Nat.le.refl (by omega)⟩
  · rcases Nat.lt_trichotomy index p.nodes.length with hlt | rfl | hgt
    · rw [node_add_of_lt p n hlt]
      exact h.nodes index
    · rw [node_add_self]
      exact hn
    · intro child hchild
      have hlt := lt_length_of_mem hchild
      omega
  · have hindex := h.names name index hname
    omega

/-- A node was added, and it is this predicate. -/
structure Grown (p : Pool) (a : Predicate) (grown : Pool × Nat) : Prop where
  extend : p.Extends grown.1
  lt_length : grown.2 < grown.1.nodes.length
  predicateAt_eq : grown.1.predicateAt grown.2 = a

theorem Grown.add (h : p.Ordered) {n : Node} (hn : n.Before p.nodes.length) :
    p.Grown (p.predicateOf n) (p.add n) := by
  have hadd := Extends.add h hn
  refine ⟨hadd, by simp [Pool.add], ?_⟩
  show (p.add n).1.predicateAt p.nodes.length = _
  rw [hadd.ordered.predicateAt_eq, node_add_self, predicateOf_congr hn hadd.predicateAt_eq]

/-- Two nodes are combined as predicates are. -/
theorem Grown.join (h : p.Ordered) (connector : Keyword) {a b : Node}
    (ha : a.Before p.nodes.length) (hb : b.Before p.nodes.length) :
    p.Grown (.combine connector (p.predicateOf a) (p.predicateOf b)) (p.join connector a b) := by
  rw [Predicate.combine, isEmpty_predicateOf, isEmpty_predicateOf, Pool.join]
  split
  · exact .add h ha
  · split
    · exact .add h hb
    -- the two copies are nodes of their own, and the combination stands behind both
    · have hfirst := Grown.add h ha
      have hb' := hfirst.extend.before hb
      have hsecond := Grown.add hfirst.extend.ordered hb'
      have hthird : Node.Before
          { children := [.node (p.add a).2, .node ((p.add a).1.add b).2], connector }
          ((p.add a).1.add b).1.nodes.length := by
        intro child hchild
        simp only [List.mem_cons, Child.node.injEq, List.not_mem_nil, or_false] at hchild
        rcases hchild with rfl | rfl
        · exact Nat.lt_of_lt_of_le hfirst.lt_length hsecond.extend.length_le
        · exact hsecond.lt_length
      have hwhole := Grown.add hsecond.extend.ordered hthird
      refine ⟨hfirst.extend.trans (hsecond.extend.trans hwhole.extend), hwhole.lt_length,
        hwhole.predicateAt_eq.trans ?_⟩
      have hleft := (hsecond.extend.predicateAt_eq _ hfirst.lt_length).trans hfirst.predicateAt_eq
      have hright :=
        hsecond.predicateAt_eq.trans (predicateOf_congr hb hfirst.extend.predicateAt_eq)
      rw [predicateOf, List.map_cons, List.map_cons, List.map_nil, childValue, childValue, hleft,
        hright]

/-! ## Operations -/

/-- An operation that makes a predicate and changes none. -/
inductive Step where
  | make (name : String) (children : List Operand) (lookups : List (String × Value))
  | combine (connector : Keyword) (name left right : String)
  | negate (name operand : String)

def step (p : Pool) : Step → Except Error Pool
  | .make name children lookups => p.make name children lookups
  | .combine connector name left right => p.combine connector name left right
  | .negate name operand => p.negate name operand

def run (p : Pool) (steps : List Step) : Except Error Pool := steps.foldlM step p

/-- Predicates under names, each for itself. -/
abbrev Plain := List (String × Predicate)

namespace Plain

def find (env : Plain) (name : String) : Except Error Predicate :=
  match Assoc.get? name env with
  | some a => .ok a
  | none => .error .noEntry

def operand (env : Plain) : Operand → Except Error Value
  | .name name => Predicate.toValue <$> env.find name
  | .value v => .ok v

/-- The operation on predicates that are not shared. For the connectors this is `Predicate.and` and
`Predicate.or`. -/
def step (env : Plain) : Step → Except Error Plain
  | .make name children lookups => do
    if let some v := children.findSome? badOperand? then throw (Error.predicateChild v).raised
    return Assoc.put name (← Predicate.make (← children.mapM env.operand) lookups) env
  | .combine connector name left right => do
    return Assoc.put name (.combine connector (← env.find left) (← env.find right)) env
  | .negate name operand => do return Assoc.put name (← env.find operand).not env

def run (env : Plain) (steps : List Step) : Except Error Plain := steps.foldlM step env

end Plain

/-- Every name stands for the same predicate in both. -/
structure Shows (p : Pool) (env : Plain) : Prop where
  ordered : p.Ordered
  predicate : ∀ name, (Assoc.get? name p.names).map p.predicateAt = Assoc.get? name env

/-- What a pool makes of operands: children that have their values. -/
structure Gives (p : Pool) (values : List Value) (given : Pool × List Child) : Prop where
  nodes : given.1.nodes = p.nodes
  names : given.1.names = p.names
  before : ∀ child, .node child ∈ given.2 → child < p.nodes.length
  values_eq : given.2.map p.childValue = values

theorem Gives.cons {q : Pool} {c : Child} {v : Value} {given : Pool × List Child}
    {values : List Value} (h : p.Gives [v] (q, [c])) (h' : q.Gives values given) :
    p.Gives (v :: values) (given.1, c :: given.2) where
  nodes := h'.nodes.trans h.nodes
  names := h'.names.trans h.names
  before child hchild := by
    rcases List.mem_cons.mp hchild with heq | hrest
    · exact h.before child (List.mem_singleton.mpr heq)
    · exact h.nodes ▸ h'.before child hrest
  values_eq := by
    rw [List.map_cons, ← childValue_congr h.nodes, h'.values_eq, childValue_congr h.nodes]
    exact congrArg (· ++ values) h.values_eq

namespace Shows

variable {env : Plain}

/-- The numbers of children that are values have no part in what names stand for. -/
theorem congr (h : p.Shows env) {q : Pool} (hnodes : q.nodes = p.nodes)
    (hnames : q.names = p.names) : q.Shows env where
  ordered := by
    have hnode : q.node = p.node := by
      funext index
      rw [node, node, hnodes]
    exact ⟨fun index => hnode ▸ h.ordered.nodes index,
      fun name index hname => hnodes ▸ h.ordered.names name index (hnames ▸ hname)⟩
  predicate name := by
    rw [predicateAt_congr hnodes, hnames]
    exact h.predicate name

theorem find (h : p.Shows env) (name : String) :
    SameOutcome (fun index a => index < p.nodes.length ∧ p.predicateAt index = a) (p.find name)
      (env.find name) := by
  rw [Pool.find, Plain.find, ← h.predicate name]
  cases hget : Assoc.get? name p.names with
  | none => exact SameOutcome.error _
  | some index => exact SameOutcome.ok ⟨h.ordered.names name index hget, rfl⟩

/-- A name for a node that was added. -/
theorem bindName (h : p.Shows env) (name : String) {a : Predicate} {grown : Pool × Nat}
    (hgrown : p.Grown a grown) : (grown.1.bindName name grown.2).Shows (Assoc.put name a env) := by
  obtain ⟨p', index⟩ := grown
  obtain ⟨hextend, hindex, rfl⟩ := hgrown
  have hat : (p'.bindName name index).predicateAt = p'.predicateAt := predicateAt_congr rfl
  refine ⟨⟨hextend.ordered.nodes, fun other i hother => ?_⟩, fun other => ?_⟩
  · rw [Pool.bindName, Assoc.get?_put] at hother
    split at hother
    · cases hother
      exact hindex
    · exact hextend.ordered.names other i hother
  · rw [hat, Pool.bindName, Assoc.get?_put, Assoc.get?_put, hextend.names, ← h.predicate other]
    cases hname : name == other with
    | true => rfl
    | false =>
      cases hother : Assoc.get? other p.names with
      | none => simp
      | some i =>
        have hi := h.ordered.names other i hother
        simpa using hextend.predicateAt_eq i hi

theorem before (h : p.Shows env) {index : Nat} (hindex : index < p.nodes.length) :
    (p.node index).Before p.nodes.length :=
  fun child hchild => Nat.lt_trans (h.ordered.nodes index child hchild) hindex

theorem combine (h : p.Shows env) (connector : Keyword) (name left right : String) :
    SameOutcome Shows (p.step (.combine connector name left right))
      (env.step (.combine connector name left right)) := by
  refine (h.find left).bind fun i a hi => (h.find right).bind fun j b hj => ?_
  obtain ⟨hi, rfl⟩ := hi
  obtain ⟨hj, rfl⟩ := hj
  rw [h.ordered.predicateAt_eq i, h.ordered.predicateAt_eq j]
  exact SameOutcome.pure
    (h.bindName name (.join h.ordered connector (h.before hi) (h.before hj)))

theorem negate (h : p.Shows env) (name operand : String) :
    SameOutcome Shows (p.step (.negate name operand)) (env.step (.negate name operand)) := by
  refine (h.find operand).bind fun i a hi => ?_
  obtain ⟨hi, rfl⟩ := hi
  have hnode : Node.Before { p.node i with negated := !(p.node i).negated } p.nodes.length :=
    h.before hi
  have hnot : p.predicateOf { p.node i with negated := !(p.node i).negated } =
      (p.predicateAt i).not := by
    rw [h.ordered.predicateAt_eq i]
    rfl
  rw [← hnot]
  exact SameOutcome.pure (h.bindName name (.add h.ordered hnode))

theorem child (h : p.Shows env) (operand : Operand) :
    SameOutcome (fun given v => p.Gives [v] (given.1, [given.2])) (p.child operand)
      (env.operand operand) := by
  cases operand with
  | value v => exact SameOutcome.ok ⟨rfl, rfl, by simp, rfl⟩
  | name name =>
    rw [Plain.operand, map_eq_pure_bind]
    refine (h.find name).bind fun i a hi => ?_
    obtain ⟨hi, rfl⟩ := hi
    exact SameOutcome.pure ⟨rfl, rfl, by simpa using hi, rfl⟩

theorem childrenOf (h : p.Shows env) (operands : List Operand) :
    SameOutcome (fun given vs => p.Gives vs given) (p.childrenOf operands)
      (operands.mapM env.operand) := by
  induction operands generalizing p with
  | nil => exact SameOutcome.ok ⟨rfl, rfl, by simp, rfl⟩
  | cons operand rest ih =>
    -- a child that is a value takes a number, so the rest is worked off in another pool
    rw [List.mapM_cons]
    refine (h.child operand).bind fun given v hgiven => ?_
    refine (ih (h.congr hgiven.nodes hgiven.names)).bind fun others vs hothers => ?_
    exact SameOutcome.pure (hgiven.cons hothers)

/-- Operands that a predicate may be made with make one, followed by lookups. -/
theorem make_operands (env : Plain) {children : List Operand}
    (h : children.findSome? badOperand? = none) (lookups : List (String × Value)) :
    (children.mapM env.operand >>= fun values => Predicate.make values lookups) =
      (fun values => { children := values }) <$>
        (children ++ (Assoc.ofPairs lookups).map fun lookup =>
          Operand.value (Predicate.leaf lookup)).mapM env.operand := by
  have hleaves : ((Assoc.ofPairs lookups).map fun lookup =>
      Operand.value (Predicate.leaf lookup)).mapM env.operand =
        .ok ((Assoc.ofPairs lookups).map Predicate.leaf) := by
    rw [mapM_eq_ok, List.forall₂_map_left_iff, List.forall₂_map_right_iff]
    exact List.forall₂_same.mpr fun lookup _ => rfl
  rw [List.mapM_append, hleaves]
  cases hvalues : children.mapM env.operand with
  | error e => rfl
  | ok values =>
    have hchild : ∀ v ∈ values, Predicate.isChild v = true := by
      refine forall_of_mapM_eq_ok hvalues fun operand hoperand v hv => ?_
      cases operand with
      | name name =>
        obtain ⟨a, -, rfl⟩ := map_eq_ok.mp hv
        rfl
      | value w =>
        cases hv
        have hbad := List.findSome?_eq_none_iff.mp h _ hoperand
        by_contra hne
        simp [badOperand?, hne] at hbad
    have hfind : values.find? (!Predicate.isChild ·) = none :=
      List.find?_eq_none.mpr fun v hv => by simp [hchild v hv]
    show Predicate.make values lookups = _
    rw [Predicate.make, hfind]
    rfl

theorem make (h : p.Shows env) (name : String) (children : List Operand)
    (lookups : List (String × Value)) :
    SameOutcome Shows (p.step (.make name children lookups))
      (env.step (.make name children lookups)) := by
  rw [Pool.step, Pool.make, Plain.step]
  cases hbad : children.findSome? badOperand? with
  | some v => exact SameOutcome.error _
  | none =>
    show SameOutcome Shows (p.childrenOf _ >>= _)
      (children.mapM env.operand >>= fun values => Predicate.make values lookups >>= _)
    rw [← bind_assoc, make_operands env hbad lookups, map_eq_pure_bind, bind_assoc]
    refine (h.childrenOf _).bind fun given values hgiven => ?_
    obtain ⟨q, found⟩ := given
    have hq := h.congr hgiven.nodes hgiven.names
    have hbefore : Node.Before { children := found } q.nodes.length := fun c hc =>
      hgiven.nodes ▸ hgiven.before c hc
    have hvalues : q.predicateOf { children := found } = { children := values } := by
      rw [predicateOf, childValue_congr hgiven.nodes, hgiven.values_eq]
    exact SameOutcome.pure (hq.bindName name (hvalues ▸ Grown.add hq.ordered hbefore))

/-- One operation gives the new name what it gives for plain predicates. -/
theorem step (h : p.Shows env) (s : Step) : SameOutcome Shows (p.step s) (env.step s) := by
  cases s with
  | make name children lookups => exact h.make name children lookups
  | combine connector name left right => exact h.combine connector name left right
  | negate name operand => exact h.negate name operand

theorem run (h : p.Shows env) (steps : List Step) :
    SameOutcome Shows (p.run steps) (env.run steps) := by
  induction steps generalizing p env with
  | nil => exact SameOutcome.pure h
  | cons s rest ih =>
    rw [Pool.run, Plain.run, List.foldlM_cons, List.foldlM_cons]
    exact (h.step s).bind fun q env' hq => ih hq

theorem valueOf (h : p.Shows env) (name : String) :
    SameOutcome Eq (p.valueOf name) (Predicate.toValue <$> env.find name) := by
  rw [map_eq_pure_bind]
  refine (h.find name).bind fun index a hindex => ?_
  obtain ⟨-, rfl⟩ := hindex
  exact SameOutcome.pure rfl

end Shows

theorem shows_empty : Shows {} [] where
  ordered := ⟨fun _ _ hchild => (List.not_mem_nil hchild).elim, fun _ _ hname => nomatch hname⟩
  predicate _ := rfl

/-- Sharing does not show: what a name stands for after a run is what the operations give for
predicates that are not shared. -/
theorem valueOf_run (steps : List Step) (name : String) :
    SameOutcome Eq (run {} steps >>= fun p => p.valueOf name)
      (Plain.run [] steps >>= fun env => Predicate.toValue <$> env.find name) :=
  (shows_empty.run steps).bind fun _ _ h => h.valueOf name

/-! ## Children added later -/

/-- A value became a child of a node. The other nodes hold their children as these are now. -/
structure Pushed (p : Pool) (v : Value) (q : Pool) (index : Nat) : Prop where
  ordered : q.Ordered
  names : q.names = p.names
  predicateAt_self : q.predicateAt index = (p.predicateAt index).push [v]
  predicateAt_of_ne : ∀ other, other ≠ index → q.predicateAt other = q.predicateOf (p.node other)

theorem Ordered.pushed (h : p.Ordered) {q : Pool} {v : Value} {index : Nat} {n : Node}
    (number : Nat)
    (hn : n = { p.node index with children := (p.node index).children ++ [.value number v] })
    (hself : q.node index = n) (hother : ∀ i, i ≠ index → q.node i = p.node i)
    (hindex : index < p.nodes.length) (hlength : q.nodes.length = p.nodes.length)
    (hnames : q.names = p.names) : p.Pushed v q index := by
  have hbefore : n.Before index := by
    intro child hchild
    have hold : .node child ∈ (p.node index).children := by simpa [hn] using hchild
    exact h.nodes index child hold
  have hordered : q.Ordered := by
    refine ⟨fun i => ?_, fun name i hname => hlength ▸ h.names name i (hnames ▸ hname)⟩
    by_cases hi : i = index
    · rw [hi, hself]
      exact hbefore
    · rw [hother i hi]
      exact h.nodes i
  refine ⟨hordered, hnames, ?_, fun i hi => by rw [hordered.predicateAt_eq i, hother i hi]⟩
  have hfront : q.predicateOf n = p.predicateOf n :=
    predicateOf_congr hbefore fun i =>
      h.predicateAt_front (fun i hi => hother i (Nat.ne_of_lt hi)) (Nat.le_of_lt hindex) (by omega)
  rw [hordered.predicateAt_eq index, hself, hfront, h.predicateAt_eq index]
  simp [predicateOf, Predicate.push, hn, childValue]

theorem Ordered.push (h : p.Ordered) {name : String} {index : Nat}
    (hname : Assoc.get? name p.names = some index) (v : Value) :
    ∃ q, p.push name (.value v) = .ok q ∧ p.Pushed v q index := by
  have hindex := h.names name index hname
  rw [Pool.push, find, hname]
  refine ⟨_, rfl, h.pushed p.next rfl ?_ ?_ hindex ?_ rfl⟩
  · simp [node, hindex]
  · intro i hi
    simp [node, List.getElem?_set_ne hi.symm]
  · simp

/-- A child that is added later is added to the predicate with the name. -/
theorem Shows.push {env : Plain} (h : p.Shows env) (name : String) (v : Value) :
    SameOutcome Eq (p.push name (.value v) >>= fun q => q.valueOf name)
      ((fun a => (a.push [v]).toValue) <$> env.find name) := by
  rw [Plain.find, ← h.predicate name]
  cases hname : Assoc.get? name p.names with
  | none =>
    rw [Pool.push, Pool.find, hname]
    exact SameOutcome.error _
  | some index =>
    obtain ⟨q, hpush, hpushed⟩ := h.ordered.push hname v
    have hvalue : q.valueOf name = .ok (q.predicateAt index).toValue := by
      rw [Pool.valueOf, Pool.find, hpushed.names, hname]
      rfl
    rw [hpush]
    show SameOutcome Eq (q.valueOf name) (.ok _)
    rw [hvalue, hpushed.predicateAt_self]
    exact SameOutcome.ok rfl

end Pool

end SqlRender
