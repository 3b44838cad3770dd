import Dialogue.Proofs.Session.Archiving
import Dialogue.Dispatch.Step
import Dialogue.Session.Store

set_option autoImplicit false

namespace Dialogue.Dispatch

structure Outside where
  store : SessionStore := {}
  delivered : List String := []
  memory : List MemoryEntry := []

def Outside.see (outside : Outside) : Event → Outside
  | ⟨.save session messages, .ok ()⟩ =>
    { outside with store := outside.store.save session messages }
  | ⟨.write text, .ok ()⟩ => { outside with delivered := outside.delivered ++ [text] }
  | ⟨.remember entry, .ok ()⟩ => { outside with memory := outside.memory ++ [entry] }
  | _ => outside

def Outside.after (outside : Outside) (events : List Event) : Outside :=
  events.foldl Outside.see outside

structure Work where
  envelope : Envelope
  conversation : Conversation
  cancelled : Bool := false
  thread : Thread Conversation

structure Task where
  job : ArchiveJob
  thread : Thread Unit

def Work.begin (conversation : Conversation) (envelope : Envelope) : Work where
  envelope := envelope
  conversation := conversation
  thread := { rest := handle conversation envelope.message }

def Task.begin (job : ArchiveJob) : Task where
  job := job
  thread := { rest := job.run }

structure Scene where
  dispatcher : State
  conversation : Conversation
  current : Option Work := none
  done : List Work := []
  tasks : List Task := []
  outside : Outside := {}

-- The dispatcher and its worker go on. The token of a message may be cancelled at any time, and it
-- is when the dispatcher says so; what the handling spawns joins the tasks.
inductive Scene.Handles (scene : Scene) : Scene → Prop where
  | dispatched (action : Step) (next : State) (own : action ≠ .invoke ∧ action ≠ .finish)
      (possible : scene.dispatcher.step action = some next) :
      Handles scene { scene with dispatcher := next }
  | begun (envelope : Envelope) (next : State) (free : scene.current = none)
      (accepted : scene.dispatcher.worker = .accepted envelope)
      (possible : scene.dispatcher.step .invoke = some next) :
      Handles scene { scene with
        dispatcher := next
        current := some (.begin scene.conversation envelope) }
  | worked (work : Work) (cancelled : Bool) (started : List Event) (thread : Thread Conversation)
      (current : scene.current = some work)
      (stays : work.cancelled = true → cancelled = true)
      (stopped : scene.dispatcher.runCancelled work.envelope.ticket = true → cancelled = true)
      (advances : work.thread.Advances cancelled started thread) :
      Handles scene { scene with
        current := some { work with cancelled, thread }
        tasks := scene.tasks ++ (spawned started).map Task.begin
        outside := scene.outside.after started }
  | ended (work : Work) (value : Conversation) (next : State) (current : scene.current = some work)
      (returned : work.thread.rest = .done value)
      (possible : scene.dispatcher.step .finish = some next) :
      Handles scene { scene with
        dispatcher := next
        conversation := value
        current := none
        done := scene.done ++ [work] }

-- One of the tasks goes on, under a token of its own that nobody cancels.
inductive Scene.Archives (scene : Scene) : Scene → Prop where
  | advanced (before after : List Task) (task : Task) (started : List Event) (thread : Thread Unit)
      (placed : scene.tasks = before ++ task :: after)
      (advances : task.thread.Advances false started thread) :
      Archives scene { scene with
        tasks := before ++ { task with thread } :: after
        outside := scene.outside.after started }

def Scene.Next (scene next : Scene) : Prop := scene.Handles next ∨ scene.Archives next

def Work.content (work : Work) : String := work.envelope.message.content

def Work.due (work : Work) : List ArchiveJob := work.conversation.due work.content

def Work.spawned (work : Work) : List ArchiveJob := Dialogue.spawned work.thread.events

def Task.stored (task : Task) : List MemoryEntry := Dialogue.stored task.thread.events

theorem memory_after (outside : Outside) (events : List Event) :
    (outside.after events).memory = outside.memory ++ stored events := by
  induction events generalizing outside with
  | nil => exact (List.append_nil _).symm
  | cons event rest ih =>
      have seen : (outside.see event).memory = outside.memory ++ event.stored?.toList := by
        rw [Outside.see.eq_def, Event.stored?.eq_def]
        split <;> simp_all
      have onward : stored (event :: rest) = event.stored?.toList ++ stored rest := by
        cases found : event.stored? <;> simp [stored, found]
      rw [onward, ← List.append_assoc, ← seen]
      exact ih (outside.see event)

theorem archiving_outside (outside : Outside) (events : List Event)
    (only : ∀ event ∈ events, event.effect.OfArchiving) :
    (outside.after events).store = outside.store ∧
      (outside.after events).delivered = outside.delivered := by
  induction events generalizing outside with
  | nil => exact ⟨rfl, rfl⟩
  | cons event rest ih =>
      obtain ⟨first, later⟩ := List.forall_mem_cons.mp only
      obtain ⟨store, delivered⟩ := ih (outside.see event) later
      have unseen : (outside.see event).store = outside.store ∧
          (outside.see event).delivered = outside.delivered := by
        obtain ⟨effect, answer⟩ := event
        cases first <;> first
          | exact ⟨rfl, rfl⟩
          | cases answer <;> exact ⟨rfl, rfl⟩
      exact ⟨store.trans unseen.1, delivered.trans unseen.2⟩

structure Work.Underway (work : Work) (settings : ConversationSettings) : Prop where
  kept : work.conversation.settings = settings
  spawns : ∃ left, work.due = work.spawned ++ left ∧
    work.thread.rest.Spawns (work.conversation.Resumed work.content) left

structure Work.Returned (work : Work) (settings : ConversationSettings) : Prop where
  kept : work.conversation.settings = settings
  resumed : ∃ after, work.thread.rest = .done after ∧
    work.conversation.Resumed work.content after

structure Scene.Sound (settings : ConversationSettings) (memory : List MemoryEntry)
    (scene : Scene) : Prop where
  kept : scene.conversation.settings = settings
  done : ∀ work ∈ scene.done, work.Returned settings
  current : ∀ work, scene.current = some work → work.Underway settings
  jobs : scene.tasks.map Task.job =
    scene.done.flatMap Work.due ++ scene.current.toList.flatMap Work.spawned
  threads : ∀ task ∈ scene.tasks, task.job.run.Leads task.thread.events task.thread.rest
  memory : scene.outside.memory.Perm (memory ++ scene.tasks.flatMap Task.stored)

section Steps

variable {settings : ConversationSettings} {memory : List MemoryEntry} {scene next : Scene}

theorem begin_underway (conversation : Conversation) (envelope : Envelope)
    (same : conversation.settings = settings) :
    (Work.begin conversation envelope).Underway settings := by
  have due : (Work.begin conversation envelope).due =
      conversation.due envelope.message.content := rfl
  have nothing : (Work.begin conversation envelope).spawned = [] := rfl
  refine ⟨same, conversation.due envelope.message.content, ?_, ?_⟩
  · rw [due, nothing, List.nil_append]
  · exact worker_spawns conversation envelope.message

theorem work_underway (work : Work) (cancelled : Bool) (started : List Event)
    (thread : Thread Conversation) (underway : work.Underway settings)
    (advances : work.thread.Advances cancelled started thread) :
    Work.Underway { work with cancelled, thread } settings ∧
      Work.spawned { work with cancelled, thread } = work.spawned ++ Dialogue.spawned started ∧
      Dialogue.stored started = [] := by
  obtain ⟨same, left, due, spawns⟩ := underway
  obtain ⟨events, nothing, later, split, onward⟩ :=
    advances_spawns cancelled work.thread thread started left spawns advances
  have longer : Work.spawned { work with cancelled, thread } =
      work.spawned ++ Dialogue.spawned started := by
    rw [Work.spawned, events, Dialogue.spawned, List.flatMap_append]
    rfl
  refine ⟨⟨same, later, ?_, onward⟩, longer, nothing⟩
  rw [longer, List.append_assoc, ← split]
  exact due

theorem work_returned (work : Work) (value : Conversation) (underway : work.Underway settings)
    (returned : work.thread.rest = .done value) :
    work.Returned settings ∧ work.spawned = work.due ∧ value.settings = settings := by
  obtain ⟨same, left, due, spawns⟩ := underway
  rw [returned] at spawns
  cases spawns with
  | done _ resumed =>
      rw [List.append_nil] at due
      exact ⟨⟨same, value, returned, resumed⟩, due.symm, resumed.1.trans same⟩

theorem begin_stored (jobs : List ArchiveJob) : (jobs.map Task.begin).flatMap Task.stored = [] := by
  induction jobs with
  | nil => rfl
  | cons job rest ih => exact ih

theorem handles_sound (sound : scene.Sound settings memory) (handles : scene.Handles next) :
    next.Sound settings memory := by
  obtain ⟨same, done, current, jobs, threads, remembered⟩ := sound
  cases handles with
  | dispatched action state own possible => exact ⟨same, done, current, jobs, threads, remembered⟩
  | begun envelope state free accepted possible =>
      refine ⟨same, done, ?_, ?_, threads, remembered⟩
      · intro work begins
        cases begins
        exact begin_underway scene.conversation envelope same
      · rw [jobs, free]
        rfl
  | worked work cancelled started thread active stays stopped advances =>
      obtain ⟨underway, longer, nothing⟩ :=
        work_underway work cancelled started thread (current work active) advances
      refine ⟨same, done, ?_, ?_, ?_, ?_⟩
      · intro other now
        cases now
        exact underway
      · simp only [List.map_append, jobs, active, Option.toList_some, List.flatMap_cons,
          List.flatMap_nil, List.append_nil, longer, List.append_assoc, List.map_map]
        congr 2
        exact List.map_id _
      · intro task member
        rcases List.mem_append.mp member with old | new
        · exact threads task old
        · obtain ⟨job, _, rfl⟩ := List.mem_map.mp new
          exact .start job.run
      · rw [memory_after, nothing, List.append_nil, List.flatMap_append, begin_stored,
          List.append_nil]
        exact remembered
  | ended work value state active returned possible =>
      obtain ⟨settled, all, kept⟩ := work_returned work value (current work active) returned
      refine ⟨kept, ?_, ?_, ?_, threads, remembered⟩
      · intro other member
        rcases List.mem_append.mp member with old | last
        · exact done other old
        · rw [List.mem_singleton.mp last]
          exact settled
      · intro other impossible
        cases impossible
      · rw [jobs, active]
        simp [all]

theorem archives_advance (sound : scene.Sound settings memory) (before after : List Task)
    (task : Task) (started : List Event) (thread : Thread Unit)
    (placed : scene.tasks = before ++ task :: after)
    (advances : task.thread.Advances false started thread) :
    task.job.run.Leads thread.events thread.rest ∧
      thread.events = task.thread.events ++ started ∧
      ∀ event ∈ started, event.effect.OfArchiving := by
  have leads := sound.threads task (by simp [placed])
  exact advances_leads task.job.run task.thread thread started (archive_ensures task.job)
    (fun look => nomatch look) leads advances

theorem archives_sound (sound : scene.Sound settings memory) (archives : scene.Archives next) :
    next.Sound settings memory := by
  cases archives with
  | advanced before after task started thread placed advances =>
      obtain ⟨leads, events, _⟩ :=
        archives_advance sound before after task started thread placed advances
      obtain ⟨same, done, current, jobs, threads, remembered⟩ := sound
      refine ⟨same, done, current, ?_, ?_, ?_⟩
      · rw [← jobs, placed]
        simp
      · intro other member
        rw [placed] at threads
        simp only [List.mem_append, List.mem_cons] at member threads
        rcases member with old | rfl | late
        · exact threads other (.inl old)
        · exact leads
        · exact threads other (.inr (.inr late))
      · have longer : Task.stored { task with thread } = task.stored ++ stored started := by
          rw [Task.stored, events, stored, List.filterMap_append]
          rfl
        rw [placed] at remembered
        rw [memory_after]
        simp only [List.flatMap_append, List.flatMap_cons, longer] at remembered ⊢
        have grown := remembered.append_right (stored started)
        refine grown.trans ?_
        simp only [List.append_assoc]
        refine List.Perm.append_left _ (List.Perm.append_left _ (List.Perm.append_left _ ?_))
        exact List.perm_append_comm

theorem reached_sound (sound : scene.Sound settings memory)
    (reached : Relation.ReflTransGen Scene.Next scene next) : next.Sound settings memory := by
  induction reached with
  | refl => exact sound
  | tail _ step ih =>
      rcases step with handles | archives
      · exact handles_sound ih handles
      · exact archives_sound ih archives

end Steps

structure Scene.Idle (scene : Scene) : Prop where
  current : scene.current = none
  done : scene.done = []
  tasks : scene.tasks = []

theorem idle_sound (scene : Scene) (idle : scene.Idle) :
    scene.Sound scene.conversation.settings scene.outside.memory := by
  obtain ⟨current, done, tasks⟩ := idle
  refine ⟨rfl, ?_, ?_, ?_, ?_, ?_⟩ <;> simp [current, done, tasks]

structure Scene.Unaffected (scene next : Scene) : Prop where
  dispatcher : next.dispatcher = scene.dispatcher
  conversation : next.conversation = scene.conversation
  current : next.current = scene.current
  done : next.done = scene.done
  store : next.outside.store = scene.outside.store
  delivered : next.outside.delivered = scene.outside.delivered

theorem archives_unaffected {settings : ConversationSettings} {memory : List MemoryEntry}
    {scene next : Scene} (sound : scene.Sound settings memory) (archives : scene.Archives next) :
    scene.Unaffected next := by
  cases archives with
  | advanced before after task started thread placed advances =>
      obtain ⟨_, _, only⟩ :=
        archives_advance sound before after task started thread placed advances
      obtain ⟨store, delivered⟩ := archiving_outside scene.outside started only
      exact ⟨rfl, rfl, rfl, rfl, store, delivered⟩

theorem tasks_unaffected {settings : ConversationSettings} {memory : List MemoryEntry}
    {scene last : Scene} (sound : scene.Sound settings memory)
    (reached : Relation.ReflTransGen Scene.Archives scene last) :
    last.Sound settings memory ∧ scene.Unaffected last := by
  induction reached with
  | refl => exact ⟨sound, rfl, rfl, rfl, rfl, rfl, rfl⟩
  | tail _ archives ih =>
      obtain ⟨still, before⟩ := ih
      have now := archives_unaffected still archives
      exact ⟨archives_sound still archives, now.dispatcher.trans before.dispatcher,
        now.conversation.trans before.conversation, now.current.trans before.current,
        now.done.trans before.done, now.store.trans before.store,
        now.delivered.trans before.delivered⟩

theorem handles_tasks {scene next : Scene} (handles : scene.Handles next) :
    scene.tasks <+: next.tasks := by
  cases handles with
  | dispatched | begun | ended => exact List.prefix_rfl
  | worked => exact List.prefix_append _ _

def AnsweredBy (answers : (effect : Effect) → effect.Answer) (events : List Event) : Prop :=
  ∀ event ∈ events, event.answer = answers event.effect

theorem can_advance (answers : (effect : Effect) → effect.Answer) (events : List Event)
    (effect : Effect) (next : effect.Answer → Proc Unit) :
    ∃ answer started, AnsweredBy answers started ∧
      Thread.Advances false ⟨events, .perform effect next⟩ started
        ⟨events ++ started, next answer⟩ := by
  by_cases look : effect = .cancelled
  · subst look
    refine ⟨false, [], by simp [AnsweredBy], ?_⟩
    rw [List.append_nil]
    exact .looked events next
  · exact ⟨answers effect, _, by simp [AnsweredBy],
      .started events effect next _ look (.inr rfl)⟩

theorem task_ends (answers : (effect : Effect) → effect.Answer) (rest : Proc Unit)
    (events : List Event) (job : ArchiveJob) (before after : List Task) (scene : Scene)
    (placed : scene.tasks = before ++ ⟨job, ⟨events, rest⟩⟩ :: after) :
    ∃ last more, Relation.ReflTransGen Scene.Archives scene last ∧ AnsweredBy answers more ∧
      last.tasks = before ++ ⟨job, ⟨events ++ more, .done ()⟩⟩ :: after := by
  induction rest generalizing events scene with
  | done value =>
      refine ⟨scene, [], .refl, by simp [AnsweredBy], ?_⟩
      rw [List.append_nil]
      exact placed
  | perform effect next ih =>
      obtain ⟨answer, started, first, advances⟩ := can_advance answers events effect next
      obtain ⟨last, more, onward, later, ends⟩ := ih answer (events ++ started)
        { scene with
          tasks := before ++ ⟨job, ⟨events ++ started, next answer⟩⟩ :: after
          outside := scene.outside.after started } rfl
      refine ⟨last, started ++ more, ?_, List.forall_mem_append.mpr ⟨first, later⟩, ?_⟩
      · exact .head (.advanced before after _ started _ placed advances) onward
      · rw [← List.append_assoc]
        exact ends

-- Every reset of a history that is archived has started one task for it, in order, and what is
-- stored are the entries of the tasks, in some order.
structure Scene.ArchivedSince (scene start : Scene) : Prop where
  started : scene.tasks.map Task.job =
    scene.done.flatMap Work.due ++ scene.current.toList.flatMap Work.spawned
  begun : ∀ work, scene.current = some work → work.spawned <+: work.due
  returned : ∀ work ∈ scene.done, work.Returned start.conversation.settings
  faithful : ∀ task ∈ scene.tasks,
    task.job.Faithful task.thread.events task.thread.rest.isDone
  session : ∀ task ∈ scene.tasks, task.job.sessionId = start.conversation.settings.sessionId
  memory : scene.outside.memory.Perm (start.outside.memory ++ scene.tasks.flatMap Task.stored)

def Scene.Unhindered (scene : Scene) : Prop :=
  ∀ before task after, scene.tasks = before ++ task :: after →
    ∀ answers : (effect : Effect) → effect.Answer, ∃ last more,
      Relation.ReflTransGen Scene.Archives scene last ∧ scene.Unaffected last ∧
        last.tasks = before ++ ⟨task.job, ⟨task.thread.events ++ more, .done ()⟩⟩ :: after ∧
        AnsweredBy answers more ∧ (requests (task.thread.events ++ more)).length = 1

theorem task_session {settings : ConversationSettings} {memory : List MemoryEntry} {scene : Scene}
    (sound : scene.Sound settings memory) (task : Task) (member : task ∈ scene.tasks) :
    task.job.sessionId = settings.sessionId := by
  have listed : task.job ∈ scene.tasks.map Task.job := List.mem_map_of_mem member
  rw [sound.jobs, List.mem_append, List.mem_flatMap, List.mem_flatMap] at listed
  have known : ∃ work : Work, work.conversation.settings = settings ∧ task.job ∈ work.due := by
    rcases listed with ⟨work, found, due⟩ | ⟨work, found, spawned⟩
    · exact ⟨work, (sound.done work found).kept, due⟩
    · obtain ⟨kept, left, due, _⟩ := sound.current work (Option.mem_toList.mp found)
      refine ⟨work, kept, ?_⟩
      rw [due]
      exact List.mem_append_left _ spawned
  obtain ⟨work, kept, due⟩ := known
  rw [due_job work.conversation work.content task.job due, ← kept]
  rfl

theorem sound_archives (start scene : Scene)
    (sound : scene.Sound start.conversation.settings start.outside.memory) :
    scene.ArchivedSince start := by
  refine ⟨sound.jobs, ?_, sound.done, ?_, task_session sound, sound.memory⟩
  · intro work current
    obtain ⟨_, left, due, _⟩ := sound.current work current
    exact ⟨left, due.symm⟩
  · intro task member
    have leads := sound.threads task member
    exact course_faithful task.job (task.job.run_leads task.thread.events task.thread.rest leads)

theorem sound_unhindered {settings : ConversationSettings} {memory : List MemoryEntry}
    {scene : Scene} (sound : scene.Sound settings memory) : scene.Unhindered := by
  intro before task after placed answers
  obtain ⟨job, events, rest⟩ := task
  obtain ⟨last, more, onward, answered, ends⟩ :=
    task_ends answers rest events job before after scene placed
  obtain ⟨still, unaffected⟩ := tasks_unaffected sound onward
  have leads := still.threads ⟨job, ⟨events ++ more, .done ()⟩⟩ (by simp [ends])
  have faithful := course_faithful job (job.run_leads _ _ leads)
  exact ⟨last, more, onward, unaffected, ends, answered, faithful.asked rfl⟩

theorem resets_archived (start scene : Scene) (idle : start.Idle)
    (reached : Relation.ReflTransGen Scene.Next start scene) :
    scene.ArchivedSince start ∧ (∀ next, scene.Archives next → scene.Unaffected next) ∧
      (∀ next, scene.Handles next → scene.tasks <+: next.tasks) ∧ scene.Unhindered := by
  have sound := reached_sound (idle_sound start idle) reached
  exact ⟨sound_archives start scene sound, fun next => archives_unaffected sound,
    fun next => handles_tasks, sound_unhindered sound⟩

theorem dispatched_through (scene : Scene) (actions : List Step) (next : State)
    (own : ∀ action ∈ actions, action ≠ .invoke ∧ action ≠ .finish)
    (possible : scene.dispatcher.steps actions = some next) :
    Relation.ReflTransGen Scene.Next scene { scene with dispatcher := next } := by
  induction actions generalizing scene with
  | nil =>
      cases possible
      exact .refl
  | cons action rest ih =>
      rw [List.forall_mem_cons] at own
      simp only [State.steps, Option.bind_eq_some_iff] at possible
      obtain ⟨between, first, later⟩ := possible
      have onward := ih { scene with dispatcher := between } own.2 later
      exact .head (.inl (.dispatched action between own.1 first)) onward

def archived : Conversation where
  settings :=
    { sessionId := "s"
      systemPrompt := ""
      agent := {}
      compactor := { provider := ⟨"model"⟩, maxContextTokens := 0, recentMessageCount := 20 }
      archived := true }
  history := [.user ⟨"0", .epoch⟩ "I prefer metric units"]

def beforeReset : Scene where
  dispatcher := .initial 1
  conversation := archived

def resetMessage : Inbound := .ofText "local" "/reset"

def resetJob : ArchiveJob := archived.archiveJob archived.history

-- A stop cancels the token of the reset before it does anything, and the dispatcher is shut down
-- before the task gets to run.
theorem reset_shut_down :
    ∃ scene, Relation.ReflTransGen Scene.Next beforeReset scene ∧
      scene.dispatcher.hasExited = true ∧ scene.done.map Work.cancelled = [true] ∧
      scene.tasks = [.begin resetJob] ∧ scene.outside.memory = [] := by
  have queued := dispatched_through beforeReset
    (.request 0 resetMessage :: sending 0 ++ takingOver) _ (by simp [sending, takingOver]) rfl
  have begun := queued.tail (.inl (.begun ⟨0, 0, resetMessage⟩ _ rfl rfl rfl))
  have stopped := begun.trans
    (dispatched_through _ (stopping 0) _ (by simp [stopping]) rfl)
  have cleared := stopped.tail (.inl (.worked _ true _ _ rfl (fun _ => rfl) (fun _ => rfl)
    (.started _ (.archive resetJob) _ () (by simp) (.inl rfl))))
  have told := cleared.tail (.inl (.worked _ true _ _ rfl (fun _ => rfl) (fun _ => rfl)
    (.started _ (.write resetAcknowledgement) _ (.ok ()) (by simp) (.inl rfl))))
  have ended := told.tail (.inl (.ended _ _ _ rfl rfl rfl))
  have exited := ended.trans
    (dispatched_through _ [.clear, .cancelRoot, .exit] _ (by simp) rfl)
  exact ⟨_, exited, rfl, rfl, rfl, rfl⟩

def blankStamp : Stamp := ⟨"", .epoch⟩

theorem task_stores (scene : Scene) (tasks : scene.tasks = [.begin resetJob]) :
    ∃ last, Relation.ReflTransGen Scene.Archives scene last ∧
      last.outside.memory = scene.outside.memory ++
        [resetJob.entry blankStamp "prefers metric"] := by
  have stamped := Relation.ReflTransGen.refl.tail (Scene.Archives.advanced [] [] _ _ _ tasks
    (.started _ .stamp _ blankStamp (by simp) (.inl rfl)))
  have asked := stamped.tail (.advanced [] [] _ _ _ rfl
    (.started _ (.chatWithin 60000 ⟨"model"⟩ (resetJob.request blankStamp)) _
      (.inTime (.finished (.ok (.ofText " prefers metric ")))) (by simp) (.inr rfl)))
  have made := asked.tail (.advanced [] [] _ _ _ rfl
    (.started _ .stamp _ blankStamp (by simp) (.inl rfl)))
  have kept := made.tail (.advanced [] [] _ _ _ rfl
    (.started _ (.remember (resetJob.entry blankStamp "prefers metric")) _ (.ok ()) (by simp)
      (.inl rfl)))
  exact ⟨_, kept, rfl⟩

theorem cancelled_reset_archived :
    beforeReset.Idle ∧ ∃ scene, Relation.ReflTransGen Scene.Next beforeReset scene ∧
      scene.dispatcher.hasExited = true ∧ scene.done.map Work.cancelled = [true] ∧
      scene.ArchivedSince beforeReset ∧ scene.Unhindered ∧
      ∃ last, Relation.ReflTransGen Scene.Archives scene last ∧ last.ArchivedSince beforeReset ∧
        last.outside.memory = [resetJob.entry blankStamp "prefers metric"] := by
  have idle : beforeReset.Idle := ⟨rfl, rfl, rfl⟩
  obtain ⟨scene, reached, exited, cancelled, tasks, empty⟩ := reset_shut_down
  obtain ⟨archives, _, _, unhindered⟩ := resets_archived beforeReset scene idle reached
  obtain ⟨last, onward, memory⟩ := task_stores scene tasks
  have later : Relation.ReflTransGen Scene.Next beforeReset last :=
    reached.trans (onward.lift id fun _ _ archives => .inr archives)
  have still := (resets_archived beforeReset last idle later).1
  refine ⟨idle, scene, reached, exited, cancelled, archives, unhindered, last, onward, still, ?_⟩
  rw [memory, empty, List.nil_append]

end Dialogue.Dispatch
