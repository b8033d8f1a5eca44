import GrantSurvey.Proofs.CallFindings

/-!
# Several walks over one method

A walk can be stepped, drained and cloned, so that a family of walks grows from a single one. Each
walk is seen through the calls that it has yielded and those that are left to it. What it does to
one of the two it undoes to the other, and no walk has a part in what another one does.
-/

namespace GrantSurvey

open ClassFile

namespace CallWalk

/-! ## One walk -/

/-- The next call is the first of those that are left. -/
theorem nextFrom_fst (lines : List LineNumber) (passed ahead : List Instruction) :
    (nextFrom lines passed ahead).1 = (restFrom lines passed ahead).head? := by
  fun_induction nextFrom lines passed ahead with
  | case1 passed => rfl
  | case2 passed instruction ahead call found => rw [restFrom, found]; rfl
  | case3 passed instruction ahead missing ih => rw [restFrom, missing, ih]; rfl

/-- After the next call those behind it are left, up to the same end. -/
theorem rest_nextFrom_snd (lines : List LineNumber) (passed ahead : List Instruction) :
    (nextFrom lines passed ahead).2.rest =
      ((restFrom lines passed ahead).tail, ⟨lines, ahead.reverse ++ passed, []⟩) := by
  fun_induction nextFrom lines passed ahead with
  | case1 passed => rfl
  | case2 passed instruction ahead call found =>
      rw [restFrom, found, List.reverse_cons, List.append_assoc]
      rfl
  | case3 passed instruction ahead missing ih =>
      rw [restFrom, missing, ih, List.reverse_cons, List.append_assoc]
      rfl

theorem next_fst (walk : CallWalk) : walk.next.1 = walk.rest.1.head? :=
  nextFrom_fst walk.lines walk.passed walk.ahead

/-- A step takes the first call off those that are left. -/
theorem rest_next_snd (walk : CallWalk) : walk.next.2.rest = (walk.rest.1.tail, walk.rest.2) :=
  rest_nextFrom_snd walk.lines walk.passed walk.ahead

/-- Draining a walk is to step it until no call comes any more. -/
theorem rest_eq (walk : CallWalk) :
    walk.rest = (walk.next.1.toList ++ walk.next.2.rest.1, walk.next.2.rest.2) := by
  rw [rest_next_snd, next_fst]
  refine Prod.ext ?_ rfl
  cases walk.rest.1 <;> rfl

/-- Nothing is left to a walk that is drained. -/
theorem rest_rest_snd (walk : CallWalk) : walk.rest.2.rest = ([], walk.rest.2) := rfl

theorem next_fst_eq_none_iff {walk : CallWalk} : walk.next.1 = none ↔ walk.rest.1 = [] := by
  rw [next_fst, List.head?_eq_none_iff]

end CallWalk

/-! ## Families of walks -/

/-- A walk with the calls that it has yielded, those from before it was cloned included. -/
structure RecordedWalk where
  walk : CallWalk
  yielded : List Call
  deriving DecidableEq, Repr

namespace RecordedWalk

def start (method : Method) : RecordedWalk :=
  ⟨CallWalk.start method, []⟩

def next (record : RecordedWalk) : RecordedWalk :=
  ⟨record.walk.next.2, record.yielded ++ record.walk.next.1.toList⟩

def drain (record : RecordedWalk) : RecordedWalk :=
  ⟨record.walk.rest.2, record.yielded ++ record.walk.rest.1⟩

/-- The calls that it has yielded, and then those that are left to it. -/
def total (record : RecordedWalk) : List Call :=
  record.yielded ++ record.walk.rest.1

theorem total_start (method : Method) :
    (start method).total = method.callSites.map CallSite.call :=
  method.calls_eq

theorem total_next (record : RecordedWalk) : record.next.total = record.total := by
  rw [total, total, next, List.append_assoc, record.walk.rest_eq]

theorem total_drain (record : RecordedWalk) : record.drain.total = record.total := by
  rw [total, total, drain, CallWalk.rest_rest_snd, List.append_nil]

/-- A step from a walk to which nothing is left leaves nothing to it. -/
theorem rest_next {record : RecordedWalk} (ended : record.walk.rest.1 = []) :
    record.next.walk.rest.1 = [] := by
  rw [next, CallWalk.rest_next_snd, ended, List.tail_nil]

end RecordedWalk

/-- What can be done with the walks of a family, which are numbered from zero. -/
inductive WalkAction where
  | next (index : Nat)
  | drain (index : Nat)
  | clone (index : Nat)
  deriving DecidableEq, Repr

namespace WalkAction

def takesFrom (index : Nat) : WalkAction → Bool
  | next other => other == index
  | drain other => other == index
  | clone _ => false

/-- The family after an action. A clone is put at its end, and an action on a walk that is not there
does nothing. -/
def perform (family : List RecordedWalk) : WalkAction → List RecordedWalk
  | next index => family.modify index RecordedWalk.next
  | drain index => family.modify index RecordedWalk.drain
  | clone index => family ++ family[index]?.toList

def run (family : List RecordedWalk) (actions : List WalkAction) : List RecordedWalk :=
  actions.foldl perform family

/-! ## One action -/

theorem mem_modify {family : List RecordedWalk} {index : Nat}
    {change : RecordedWalk → RecordedWalk} {record : RecordedWalk}
    (member : record ∈ family.modify index change) :
    ∃ before ∈ family, record = before ∨ record = change before := by
  obtain ⟨place, found⟩ := List.mem_iff_getElem?.mp member
  rw [List.getElem?_modify] at found
  obtain ⟨before, there, rfl⟩ := Option.map_eq_some_iff.mp found
  refine ⟨before, List.mem_of_getElem? there, ?_⟩
  split
  · exact .inr rfl
  · exact .inl rfl

/-- Whatever an action does, it leaves the total of every walk as it was, and a clone has that of
its original. -/
theorem total_of_mem_perform {family : List RecordedWalk} {calls : List Call}
    (same : ∀ record ∈ family, record.total = calls) {action : WalkAction}
    {record : RecordedWalk} (member : record ∈ perform family action) : record.total = calls := by
  cases action with
  | next index =>
      obtain ⟨before, listed, rfl | rfl⟩ := mem_modify member
      · exact same _ listed
      · rw [RecordedWalk.total_next, same before listed]
  | drain index =>
      obtain ⟨before, listed, rfl | rfl⟩ := mem_modify member
      · exact same _ listed
      · rw [RecordedWalk.total_drain, same before listed]
  | clone index =>
      rcases List.mem_append.mp member with kept | cloned
      · exact same record kept
      · exact same record (List.mem_of_getElem? (Option.mem_toList.mp cloned))

/-- The state that an action brings the walk of a number to, if it is there. -/
def effectOn (index : Nat) (record : RecordedWalk) : WalkAction → RecordedWalk
  | next other => if other = index then record.next else record
  | drain other => if other = index then record.drain else record
  | clone _ => record

/-- What becomes of a walk depends on itself and on the action only. -/
theorem getElem?_perform {family : List RecordedWalk} {index : Nat} {record : RecordedWalk}
    (there : family[index]? = some record) (action : WalkAction) :
    (perform family action)[index]? = some (effectOn index record action) := by
  cases action with
  | next other =>
      rw [perform, List.getElem?_modify, there]
      rfl
  | drain other =>
      rw [perform, List.getElem?_modify, there]
      rfl
  | clone other =>
      have inside := (List.getElem?_eq_some_iff.mp there).1
      rw [perform, List.getElem?_append_left inside, there, effectOn]

theorem effectOn_of_not_takesFrom {index : Nat} {action : WalkAction}
    (other : action.takesFrom index = false) (record : RecordedWalk) :
    effectOn index record action = record := by
  cases action with
  | next place => exact if_neg (by simpa [takesFrom] using other)
  | drain place => exact if_neg (by simpa [takesFrom] using other)
  | clone place => rfl

/-- Whatever is done, nothing is left to a walk to which nothing was left. -/
theorem rest_effectOn {record : RecordedWalk} (ended : record.walk.rest.1 = []) (index : Nat)
    (action : WalkAction) : (effectOn index record action).walk.rest.1 = [] := by
  cases action with
  | next other =>
      rw [effectOn]
      split
      · exact RecordedWalk.rest_next ended
      · exact ended
  | drain other =>
      rw [effectOn]
      split
      · rfl
      · exact ended
  | clone other => exact ended

/-! ## Actions in a row -/

theorem total_of_mem_run {family : List RecordedWalk} {calls : List Call}
    (same : ∀ record ∈ family, record.total = calls) {actions : List WalkAction}
    {record : RecordedWalk} (member : record ∈ run family actions) : record.total = calls := by
  induction actions generalizing family with
  | nil => exact same record member
  | cons action actions ih => exact ih (fun _ inside => total_of_mem_perform same inside) member

/-- The state of a walk after actions in a row. -/
theorem getElem?_run {family : List RecordedWalk} {index : Nat} {record : RecordedWalk}
    (there : family[index]? = some record) (actions : List WalkAction) :
    (run family actions)[index]? = some (actions.foldl (effectOn index) record) := by
  induction actions generalizing family record with
  | nil => exact there
  | cons action actions ih => exact ih (getElem?_perform there action)

/-- Actions that take nothing from a walk make no difference to it. -/
theorem foldl_effectOn_filter (index : Nat) (actions : List WalkAction) (record : RecordedWalk) :
    (actions.filter (takesFrom index)).foldl (effectOn index) record =
      actions.foldl (effectOn index) record := by
  induction actions generalizing record with
  | nil => rfl
  | cons action actions ih =>
      cases takes : action.takesFrom index with
      | true => rw [List.filter_cons_of_pos takes, List.foldl_cons, List.foldl_cons, ih]
      | false =>
          rw [List.filter_cons_of_neg (by simp [takes]), List.foldl_cons,
            effectOn_of_not_takesFrom takes, ih]

theorem rest_foldl_effectOn {record : RecordedWalk} (ended : record.walk.rest.1 = []) (index : Nat)
    (actions : List WalkAction) : (actions.foldl (effectOn index) record).walk.rest.1 = [] := by
  induction actions generalizing record with
  | nil => exact ended
  | cons action actions ih => exact ih (rest_effectOn ended index action)

end WalkAction

open WalkAction

/-- Whatever is done with the walks that grow from the one over a method, the calls that a walk has
yielded and those that are left to it are together the calls of the method, one for each instruction
that calls, in code order. A step yields the first of the calls that are left, and draining is
stepping until none comes. What becomes of a walk depends on the actions only that take calls from
it, whatever is done with the others meanwhile; a clone starts where its original stands. Once a
step yields no call, no later one does. -/
theorem walks_replay_independently (method : Method) (actions : List WalkAction) :
    let family := run [RecordedWalk.start method] actions
    (∀ record ∈ family,
      record.yielded ++ record.walk.rest.1 = method.callSites.map CallSite.call) ∧
    (∀ walk : CallWalk, walk.next.1 = walk.rest.1.head? ∧
      walk.rest = (walk.next.1.toList ++ walk.next.2.rest.1, walk.next.2.rest.2)) ∧
    (∀ (index : Nat) (record : RecordedWalk), family[index]? = some record →
      perform family (.clone index) = family ++ [record] ∧
      ∀ more, (run family more)[index]? = (run family (more.filter (takesFrom index)))[index]?) ∧
    ∀ (index : Nat) (record later : RecordedWalk) (more : List WalkAction),
      family[index]? = some record → record.walk.next.1 = none →
        (run family more)[index]? = some later → later.walk.next.1 = none := by
  intro family
  refine ⟨?_, fun walk => ⟨walk.next_fst, walk.rest_eq⟩, ?_, ?_⟩
  · have starts : ∀ record ∈ [RecordedWalk.start method],
        record.total = method.callSites.map CallSite.call := by
      intro record member
      rw [List.mem_singleton.mp member, RecordedWalk.total_start]
    exact fun record member => total_of_mem_run starts member
  · intro index record there
    refine ⟨by rw [perform, there]; rfl, fun more => ?_⟩
    rw [getElem?_run there, getElem?_run there, foldl_effectOn_filter]
  · intro index record later more there ended afterwards
    rw [getElem?_run there] at afterwards
    cases afterwards
    rw [CallWalk.next_fst_eq_none_iff] at ended ⊢
    exact rest_foldl_effectOn ended index more

/-- Two calls with another instruction between them. The walk is cloned after its first step, then
drained; its clone still yields the second call, whatever else is done, and nothing after it. -/
theorem walks_replay_independently_after_clone :
    let method : Method := ⟨"m", "()V", [⟨0, .invoke .static ⟨"F", "open", "()V"⟩, false⟩,
      ⟨3, .other 87, false⟩, ⟨4, .invoke .virtual ⟨"F", "close", "()V"⟩, false⟩],
      [⟨0, 5⟩, ⟨4, 6⟩]⟩
    let family := run [RecordedWalk.start method] [.next 0, .clone 0]
    ∃ record : RecordedWalk, family[1]? = some record ∧
      record.yielded.length = 1 ∧ record.yielded ++ record.walk.rest.1 =
        method.callSites.map CallSite.call ∧
      (run family [.drain 0, .next 1, .clone 1, .next 0])[1]? = (run family [.next 1])[1]? ∧
      ∃ later : RecordedWalk, (run family [.drain 0, .drain 1])[1]? = some later ∧
        later.walk.next.1 = none ∧
        ∀ last, (run (run family [.drain 0, .drain 1]) [.next 1, .next 1])[1]? = some last →
          last.walk.next.1 = none := by
  intro method family
  obtain ⟨total, -, apart, -⟩ := walks_replay_independently method [.next 0, .clone 0]
  obtain ⟨-, -, -, ended⟩ :=
    walks_replay_independently method [.next 0, .clone 0, .drain 0, .drain 1]
  refine ⟨_, rfl, rfl, total _ (List.mem_of_getElem? (i := 1) rfl), ?_, _, rfl, rfl, ?_⟩
  · exact (apart 1 _ rfl).2 [.drain 0, .next 1, .clone 1, .next 0]
  · exact fun last => ended 1 _ last [.next 1, .next 1] rfl rfl

end GrantSurvey
