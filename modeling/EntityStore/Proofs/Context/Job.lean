import EntityStore.Context.Basic

/-! What a job leaves behind.
A job meets a postcondition when it answers within it or gives up. A job that never ends meets none,
so meeting any postcondition at all says that the job comes to an end.
-/

namespace EntityStore.Job

variable {α β : Type} {context : Context}

/-- Run on the context, the job gives up or ends with an answer and a context within `post`. -/
def Ensures (job : Job α) (context : Context) (post : α → Context → Prop) : Prop :=
  match job context with
  | .ok (answer, after) => post answer after
  | .error (.panic _) => True
  | .error .endless => False

/-- A job that answers is judged by its answer. -/
theorem Ensures.of_ok {job : Job α} {answer : α} {after : Context} {post : α → Context → Prop}
    (answers : job context = .ok (answer, after)) (holds : post answer after)
    : job.Ensures context post := by
  simp only [Ensures, answers]
  exact holds

theorem Ensures.elim {job : Job α} {answer : α} {after : Context} {post : α → Context → Prop}
    (ensures : job.Ensures context post) (answers : job context = .ok (answer, after))
    : post answer after := by
  simpa only [Ensures, answers] using ensures

/-- A postcondition may speak of the run itself. -/
theorem Ensures.answering {job : Job α} {post : α → Context → Prop}
    (ensures : job.Ensures context post)
    : job.Ensures context (fun answer after =>
        post answer after ∧ job context = .ok (answer, after)) := by
  unfold Ensures at *
  split at ensures
  · next answers => exact ⟨ensures, answers⟩
  · trivial
  · contradiction

/-- A job that stops without an answer gives up. -/
theorem Ensures.panic {job : Job α} {abort : Abort} {post : α → Context → Prop}
    (ensures : job.Ensures context post) (stops : job context = .error abort)
    : ∃ message, abort = .panic message := by
  cases abort with
  | panic message => exact ⟨message, rfl⟩
  | endless => simp only [Ensures, stops] at ensures

/-- A postcondition may be weakened. -/
theorem Ensures.mono {job : Job α} {post post' : α → Context → Prop}
    (ensures : job.Ensures context post)
    (weaker : ∀ answer after, post answer after → post' answer after)
    : job.Ensures context post' := by
  unfold Ensures at *
  split at ensures
  · exact weaker _ _ ensures
  · trivial
  · contradiction

/-- Both postconditions are met at once. -/
theorem Ensures.and {job : Job α} {first second : α → Context → Prop}
    (left : job.Ensures context first) (right : job.Ensures context second)
    : job.Ensures context (fun answer after => first answer after ∧ second answer after) := by
  unfold Ensures at *
  split at left
  · next answers => exact ⟨left, by simpa only [answers] using right⟩
  · trivial
  · contradiction

/-- What follows a job starts where the job ends. -/
theorem Ensures.bind {job : Job α} {next : α → Job β} {middle : α → Context → Prop}
    {post : β → Context → Prop} (first : job.Ensures context middle)
    (later : ∀ answer after, middle answer after → (next answer).Ensures after post)
    : (job >>= next).Ensures context post := by
  have run : (job >>= next) context
      = (job context).bind (fun result => next result.1 result.2) := rfl
  unfold Ensures at first
  split at first
  · next answer after same =>
      unfold Ensures
      rw [run, same]
      exact later answer after first
  · next same =>
      unfold Ensures
      rw [run, same]
      trivial
  · contradiction

theorem Ensures.pure {answer : α} {post : α → Context → Prop} (holds : post answer context)
    : (Pure.pure answer : Job α).Ensures context post :=
  holds

/-- Writing leaves the context written. -/
theorem Ensures.write {f : Context → Context} {post : Unit → Context → Prop}
    (holds : post () (f context))
    : (Job.write f).Ensures context post :=
  holds

theorem Ensures.write_bind {f : Context → Context} {next : Unit → Job β}
    {post : β → Context → Prop} (later : (next ()).Ensures (f context) post)
    : (Job.write f >>= next).Ensures context post :=
  later

/-- Looking at the context leaves it as it is. -/
theorem Ensures.get_bind {next : Context → Job β} {post : β → Context → Prop}
    (later : (next context).Ensures context post)
    : ((get : Job Context) >>= next).Ensures context post :=
  later

/-- A computation that answers leaves the context as it is. -/
theorem Ensures.lift_bind {attempt : Attempt α} {answer : α} {next : α → Job β}
    {post : β → Context → Prop} (answers : attempt = .ok answer)
    (later : (next answer).Ensures context post)
    : Job.Ensures ((attempt : Job α) >>= next) context post := by
  subst answers
  exact later

/-- A computation that gives up leaves nothing to ensure. -/
theorem Ensures.lift_panic {attempt : Attempt α} {message : Option String} {next : α → Job β}
    {post : β → Context → Prop} (stops : attempt = .error (.panic message))
    : Job.Ensures ((attempt : Job α) >>= next) context post := by
  subst stops
  trivial

/-- What follows a job is run with its answer where it ends. -/
theorem bind_run (job : Job α) (next : α → Job β) (context : Context)
    : (job >>= next) context = (job context).bind (fun result => next result.1 result.2) :=
  rfl

/-- A job that answers went through its first part. -/
theorem exists_of_bind {job : Job α} {next : α → Job β} {answer : β} {after : Context}
    (answers : (job >>= next) context = .ok (answer, after))
    : ∃ first middle,
        job context = .ok (first, middle) ∧ next first middle = .ok (answer, after) := by
  rw [bind_run] at answers
  cases ends : job context with
  | error abort =>
      rw [ends] at answers
      contradiction
  | ok result =>
      rw [ends] at answers
      exact ⟨result.1, result.2, rfl, answers⟩

/-- What follows a job may be replaced wherever the job can end. -/
theorem Ensures.bind_congr {job : Job α} {next next' : α → Job β} {middle : α → Context → Prop}
    (first : job.Ensures context middle)
    (same : ∀ answer after, middle answer after → next answer after = next' answer after)
    : (job >>= next) context = (job >>= next') context := by
  rw [bind_run, bind_run]
  cases ends : job context with
  | error abort => rfl
  | ok result => exact same result.1 result.2 (first.elim ends)

/-- What follows a job that answers runs where the job ends. -/
theorem bind_of_ok {job : Job α} {answer : α} {after : Context}
    (answers : job context = .ok (answer, after)) (next : α → Job β)
    : (job >>= next) context = next answer after := by
  rw [bind_run, answers]
  rfl

end EntityStore.Job
