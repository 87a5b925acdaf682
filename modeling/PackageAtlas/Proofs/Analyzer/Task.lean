import PackageAtlas.Proofs.Analyzer.Faithful

/-!
# Tasks

What a worker asks an analyzer for is a task. It accesses the caches one time after the other, and
what it asks next may depend on the answers it got. Where several tasks are open, any of them may
make the next access. As long as the caches are faithful, every task gets the answers that it would
get without them, whatever the other tasks do in between.
-/
namespace PackageAtlas

inductive Task (α : Type) where
  | done (answer : α)
  | parse (path : Path) (next : Except SourceError ParsedModule → Task α)
  | resolve (name : String) (context : Path) (next : Option Path → Task α)

namespace Task

variable {α β : Type} {origin analyzer : Analyzer} {tree : FileTree}

def isDone : Task α → Bool
  | done _ => true
  | _ => false

def bind : Task α → (α → Task β) → Task β
  | done answer, next => next answer
  | parse path first, next => parse path fun read => (first read).bind next
  | resolve name context first, next =>
    resolve name context fun found => (first found).bind next

/-- One task for each element, one behind the other. -/
def each (body : α → Task β) : List α → Task (List β)
  | [] => done []
  | a :: rest => (body a).bind fun b => (each body rest).bind fun others => done (b :: others)

/-- A single access to the caches. -/
def step (tree : FileTree) : Task α → StateM Analyzer (Task α)
  | done answer => return done answer
  | parse path next => return next (← Analyzer.parse tree path)
  | resolve name context next => return next (← Analyzer.resolve tree name context)

/-- All accesses in a row. -/
def run (tree : FileTree) : Task α → StateM Analyzer α
  | done answer => return answer
  | parse path next => do run tree (next (← Analyzer.parse tree path))
  | resolve name context next => do run tree (next (← Analyzer.resolve tree name context))

theorem run_bind (task : Task α) (next : α → Task β) :
    (task.bind next).run tree = task.run tree >>= fun answer => (next answer).run tree := by
  induction task with
  | done answer => rfl
  | parse path first ih => simp [bind, run, ih]
  | resolve name context first ih => simp [bind, run, ih]

theorem run_each (body : α → Task β) (elements : List α) :
    (each body elements).run tree = elements.mapM fun a => (body a).run tree := by
  induction elements with
  | nil => rfl
  | cons a rest ih => simp [each, run_bind, ih, List.mapM_cons, run]

/-! ### Answers without caches -/

/-- The answer of a task if everything is found anew. -/
def answer (origin : Analyzer) (tree : FileTree) : Task α → α
  | done answer => answer
  | parse path next => answer origin tree (next (Analyzer.readModule tree path))
  | resolve name context next => answer origin tree (next (origin.search tree name context))

/-- The number of accesses a task makes on the way to this answer. -/
def length (origin : Analyzer) (tree : FileTree) : Task α → Nat
  | done _ => 0
  | parse path next => length origin tree (next (Analyzer.readModule tree path)) + 1
  | resolve name context next => length origin tree (next (origin.search tree name context)) + 1

theorem answer_bind (task : Task α) (next : α → Task β) :
    (task.bind next).answer origin tree =
      (next (task.answer origin tree)).answer origin tree := by
  induction task with
  | done answer => rfl
  | parse path first ih => exact ih _
  | resolve name context first ih => exact ih _

theorem answer_each (body : α → Task β) (elements : List α) :
    (each body elements).answer origin tree =
      elements.map fun a => (body a).answer origin tree := by
  induction elements with
  | nil => rfl
  | cons a rest ih => rw [each, answer_bind, answer_bind, ih]; rfl

/-- Whether a task, with these answers, parses only files that are there, and looks up names only in
directories that are given by their location. -/
def Posed (origin : Analyzer) (tree : FileTree) : Task α → Prop
  | done _ => True
  | parse path next =>
    (∃ place, tree.locate? path = some place) ∧
      Posed origin tree (next (Analyzer.readModule tree path))
  | resolve name context next =>
    (∃ location : Location, location.Plain ∧ context = location.path) ∧
      Posed origin tree (next (origin.search tree name context))

theorem Posed.bind {task : Task α} {next : α → Task β} (posed : task.Posed origin tree)
    (onward : (next (task.answer origin tree)).Posed origin tree) :
    (task.bind next).Posed origin tree := by
  induction task with
  | done answer => exact onward
  | parse path first ih => exact ⟨posed.1, ih _ posed.2 onward⟩
  | resolve name context first ih => exact ⟨posed.1, ih _ posed.2 onward⟩

theorem posed_each {body : α → Task β} {elements : List α}
    (posed : ∀ a ∈ elements, (body a).Posed origin tree) :
    (each body elements).Posed origin tree := by
  induction elements with
  | nil => trivial
  | cons a rest ih =>
    obtain ⟨first, others⟩ := List.forall_mem_cons.mp posed
    exact first.bind ((ih others).bind trivial)

/-! ### Steps and runs -/

/-- A step brings a task nearer to the answer that it has without caches. -/
theorem Posed.step {task : Task α} (posed : task.Posed origin tree) (pending : task.isDone = false)
    (sound : tree.Sound) (faithful : origin.Faithful tree analyzer) :
    origin.Faithful tree (task.step tree analyzer).2 ∧
      (task.step tree analyzer).1.Posed origin tree ∧
      (task.step tree analyzer).1.answer origin tree = task.answer origin tree ∧
      (task.step tree analyzer).1.length origin tree + 1 = task.length origin tree := by
  cases task with
  | done answer => cases pending
  | parse path next =>
    obtain ⟨⟨place, located⟩, onward⟩ := posed
    have step_eq : (Task.step tree (parse path next) analyzer).1 =
        next (Analyzer.readModule tree path) :=
      congrArg next (faithful.parse_eq sound located)
    rw [step_eq]
    exact ⟨faithful.parse sound path, onward, rfl, rfl⟩
  | resolve name context next =>
    obtain ⟨⟨location, plain, rfl⟩, onward⟩ := posed
    have step_eq : (Task.step tree (resolve name location.path next) analyzer).1 =
        next (origin.search tree name location.path) :=
      congrArg next ((faithful.serves plain).resolve name).1
    rw [step_eq]
    exact ⟨faithful.resolve name _, onward, rfl, rfl⟩

/-- A task that runs on its own gives the answer that it has without caches. -/
theorem Posed.run {task : Task α} (posed : task.Posed origin tree) (sound : tree.Sound)
    (faithful : origin.Faithful tree analyzer) :
    (task.run tree analyzer).1 = task.answer origin tree ∧
      origin.Faithful tree (task.run tree analyzer).2 := by
  induction task generalizing analyzer with
  | done answer => exact ⟨rfl, faithful⟩
  | parse path next ih =>
    obtain ⟨after, onward, answer_eq, -⟩ := posed.step rfl sound faithful
    rw [← answer_eq]
    exact ih _ onward after
  | resolve name context next ih =>
    obtain ⟨after, onward, answer_eq, -⟩ := posed.step rfl sound faithful
    rw [← answer_eq]
    exact ih _ onward after

/-! ### Several tasks -/

/-- One of several tasks makes an access, while the others wait. -/
inductive Turn (tree : FileTree) :
    List (Task α) × Analyzer → List (Task α) × Analyzer → Prop
  | take {before after : List (Task α)} {task : Task α} {analyzer : Analyzer}
      (pending : task.isDone = false) :
      Turn tree (before ++ task :: after, analyzer)
        (before ++ (task.step tree analyzer).1 :: after, (task.step tree analyzer).2)

/-- The number of accesses that are left. -/
def remaining (origin : Analyzer) (tree : FileTree) : List (Task α) → Nat
  | [] => 0
  | task :: rest => task.length origin tree + remaining origin tree rest

theorem remaining_append (before after : List (Task α)) :
    remaining origin tree (before ++ after) =
      remaining origin tree before + remaining origin tree after := by
  induction before with
  | nil => exact (Nat.zero_add _).symm
  | cons task rest ih => rw [List.cons_append, remaining, remaining, ih, Nat.add_assoc]

/-- Whether open tasks are on the way to the given answers, with faithful caches. -/
structure Underway (origin : Analyzer) (tree : FileTree) (answers : List α)
    (tasks : List (Task α)) (analyzer : Analyzer) : Prop where
  faithful : origin.Faithful tree analyzer
  posed : ∀ task ∈ tasks, task.Posed origin tree
  answers_eq : tasks.map (·.answer origin tree) = answers

variable {answers : List α} {tasks next : List (Task α)} {after : Analyzer}

theorem Underway.turn (underway : Underway origin tree answers tasks analyzer)
    (sound : tree.Sound) (turn : Turn tree (tasks, analyzer) (next, after)) :
    Underway origin tree answers next after ∧
      remaining origin tree next + 1 = remaining origin tree tasks := by
  -- Only one task changes, and its step keeps its answer and the caches faithful to all others.
  obtain ⟨faithful, posed, answers_eq⟩ := underway
  generalize start_eq : (tasks, analyzer) = start at turn
  generalize finish_eq : (next, after) = finish at turn
  cases turn with
  | @take before others task _ pending =>
    cases start_eq
    cases finish_eq
    simp only [List.forall_mem_append, List.forall_mem_cons] at posed
    obtain ⟨before_posed, task_posed, others_posed⟩ := posed
    obtain ⟨still_faithful, step_posed, same_answer, shorter⟩ :=
      task_posed.step pending sound faithful
    refine ⟨⟨still_faithful, ?_, ?_⟩, ?_⟩
    · simp only [List.forall_mem_append, List.forall_mem_cons]
      exact ⟨before_posed, step_posed, others_posed⟩
    · rw [← answers_eq, List.map_append, List.map_append, List.map_cons, List.map_cons,
        same_answer]
    · rw [remaining_append, remaining_append, remaining, remaining, ← shorter]
      omega

/-- Some task can go on, unless all of them are done. -/
theorem turn_or_done (tree : FileTree) (tasks : List (Task α)) (analyzer : Analyzer) :
    (∃ next after, Turn tree (tasks, analyzer) (next, after)) ∨
      ∃ answers : List α, tasks = answers.map .done := by
  by_cases all_done : ∀ task ∈ tasks, task.isDone = true
  · refine Or.inr ?_
    clear analyzer
    induction tasks with
    | nil => exact ⟨[], rfl⟩
    | cons task rest ih =>
      obtain ⟨here, others⟩ := List.forall_mem_cons.mp all_done
      obtain ⟨answers, rfl⟩ := ih others
      cases task with
      | done answer => exact ⟨answer :: answers, rfl⟩
      | parse path next => cases here
      | resolve name context next => cases here
  · push Not at all_done
    obtain ⟨task, member, pending⟩ := all_done
    obtain ⟨before, behind, rfl⟩ := List.append_of_mem member
    exact Or.inl ⟨_, _, .take (Bool.eq_false_iff.mpr pending)⟩

/-- Tasks that are done have given the answers they were on the way to. -/
theorem Underway.eq_of_done {given : List α}
    (underway : Underway origin tree answers (given.map .done) analyzer) : given = answers := by
  rw [← underway.answers_eq, List.map_map]
  exact (List.map_id given).symm

end Task

end PackageAtlas
