import Dialogue.Dispatch.Handling
import Dialogue.Proofs.Context.Compaction
import Dialogue.Proofs.Process.Thread
import Dialogue.Proofs.Session.Ending

set_option autoImplicit false

namespace Dialogue

namespace ArchiveJob

variable (job : ArchiveJob)

def summary? : Timed (Raced Effect.Reply) → Option String
  | .late => none
  | .inTime reply => (Summary.ofReply reply).toOption

def request (asked : Stamp) : ChatRequest := Summary.request asked job.messages job.maxTokens

def asking (asked : Stamp) (reply : Timed (Raced Effect.Reply)) : Event :=
  ⟨.chatWithin job.timeout job.provider (job.request asked), reply⟩

def keeping (made : Stamp) (summary : String) (answer : Except MemoryError Unit) : Event :=
  ⟨.remember (job.entry made summary), answer⟩

inductive Course : List Event → Bool → Prop where
  | begun : Course [] false
  | stamped (asked : Stamp) : Course [⟨.stamp, asked⟩] false
  | asked (asked : Stamp) (reply : Timed (Raced Effect.Reply)) :
      Course [⟨.stamp, asked⟩, job.asking asked reply] false
  | unsummarized (asked : Stamp) (reply : Timed (Raced Effect.Reply)) (text : String)
      (nothing : summary? reply = none) :
      Course [⟨.stamp, asked⟩, job.asking asked reply, ⟨.log ⟨.warning, text⟩, ()⟩] true
  | summarized (asked made : Stamp) (reply : Timed (Raced Effect.Reply)) (summary : String)
      (told : summary? reply = some summary) :
      Course [⟨.stamp, asked⟩, job.asking asked reply, ⟨.stamp, made⟩] false
  | kept (asked made : Stamp) (reply : Timed (Raced Effect.Reply)) (summary : String)
      (told : summary? reply = some summary) :
      Course [⟨.stamp, asked⟩, job.asking asked reply, ⟨.stamp, made⟩,
        job.keeping made summary (.ok ())] true
  | rejected (asked made : Stamp) (reply : Timed (Raced Effect.Reply)) (summary : String)
      (e : MemoryError) (told : summary? reply = some summary) :
      Course [⟨.stamp, asked⟩, job.asking asked reply, ⟨.stamp, made⟩,
        job.keeping made summary (.error e)] false
  | unkept (asked made : Stamp) (reply : Timed (Raced Effect.Reply)) (summary text : String)
      (e : MemoryError) (told : summary? reply = some summary) :
      Course [⟨.stamp, asked⟩, job.asking asked reply, ⟨.stamp, made⟩,
        job.keeping made summary (.error e), ⟨.log ⟨.warning, text⟩, ()⟩] true

def warning : Timed (Raced Effect.Reply) → String
  | .late => "Reset summary timed out"
  | .inTime _ => "Reset summary failed"

def keep (summary : String) : Proc Unit := do
  let stamp ← Proc.stamp
  match ← Proc.remember (job.entry stamp summary) with
  | .ok () => return ()
  | .error _ => Proc.warn "Failed to archive reset conversation"

def settle (reply : Timed (Raced Effect.Reply)) : Proc Unit :=
  match summary? reply with
  | none => Proc.warn (warning reply)
  | some summary => job.keep summary

theorem run_settles :
    job.run = (do
      let asked ← Proc.stamp
      let reply ← Proc.chatWithin job.timeout job.provider (job.request asked)
      job.settle reply) := by
  rw [run]
  congr 1
  funext asked
  dsimp only [request]
  congr 1
  funext reply
  cases reply with
  | late => rfl
  | inTime reply =>
      dsimp only [settle, summary?]
      cases Summary.ofReply reply <;> rfl

theorem warning_leads (text : String) (events : List Event) (rest : Proc Unit)
    (leads : (Proc.warn text).Leads events rest) :
    (events = [] ∧ rest.isDone = false) ∨
      (events = [⟨.log ⟨.warning, text⟩, ()⟩] ∧ rest.isDone = true) := by
  rcases leads_after (.log ⟨.warning, text⟩) pure events rest leads with
    nothing | ⟨answer, later, rfl, onward⟩
  · exact .inl nothing
  · obtain ⟨rfl, done⟩ := leads_done _ later rest onward
    exact .inr ⟨rfl, done⟩

theorem settle_leads (asked : Stamp) (reply : Timed (Raced Effect.Reply)) (events : List Event)
    (rest : Proc Unit) (leads : (job.settle reply).Leads events rest) :
    job.Course (⟨.stamp, asked⟩ :: job.asking asked reply :: events) rest.isDone := by
  rw [settle] at leads
  cases told : summary? reply with
  | none =>
      rw [told] at leads
      rcases warning_leads _ events rest leads with ⟨rfl, done⟩ | ⟨rfl, done⟩
      · exact done ▸ .asked asked reply
      · exact done ▸ .unsummarized asked reply _ told
  | some summary =>
      rw [told] at leads
      rcases leads_after .stamp _ events rest leads with ⟨rfl, done⟩ | ⟨made, later, rfl, onward⟩
      · exact done ▸ .asked asked reply
      rcases leads_after (.remember (job.entry made summary)) _ later rest onward with
        ⟨rfl, done⟩ | ⟨answer, last, rfl, final⟩
      · exact done ▸ .summarized asked made reply summary told
      cases answer with
      | ok _ =>
          obtain ⟨rfl, done⟩ := leads_done _ last rest final
          exact done ▸ .kept asked made reply summary told
      | error e =>
          rcases warning_leads _ last rest final with ⟨rfl, done⟩ | ⟨rfl, done⟩
          · exact done ▸ .rejected asked made reply summary e told
          · exact done ▸ .unkept asked made reply summary _ e told

theorem run_leads (events : List Event) (rest : Proc Unit) (leads : job.run.Leads events rest) :
    job.Course events rest.isDone := by
  rw [run_settles] at leads
  rcases leads_after .stamp _ events rest leads with ⟨rfl, done⟩ | ⟨asked, later, rfl, onward⟩
  · exact done ▸ .begun
  rcases leads_after (.chatWithin job.timeout job.provider (job.request asked)) _ later rest
    onward with ⟨rfl, done⟩ | ⟨reply, last, rfl, final⟩
  · exact done ▸ .stamped asked
  exact settle_leads job asked reply last rest final

end ArchiveJob

inductive Effect.OfArchiving : Effect → Prop where
  | stamp : OfArchiving .stamp
  | ask (limit : Nat) (provider : Provider) (request : ChatRequest) :
      OfArchiving (.chatWithin limit provider request)
  | keep (entry : MemoryEntry) : OfArchiving (.remember entry)
  | warn (text : String) : OfArchiving (.log ⟨.warning, text⟩)

theorem archive_ensures (job : ArchiveJob) :
    job.run.Ensures Effect.OfArchiving fun _ => True := by
  rw [ArchiveJob.run_settles]
  refine Proc.ensures_after _ _ .stamp fun asked => ?_
  refine Proc.ensures_after _ _ (.ask _ _ _) fun reply => ?_
  rw [ArchiveJob.settle]
  cases ArchiveJob.summary? reply with
  | none => exact Proc.ensures_after _ pure (.warn _) fun _ => trivial
  | some summary =>
      refine Proc.ensures_after _ _ .stamp fun made => ?_
      refine Proc.ensures_after _ _ (.keep _) fun answer => ?_
      cases answer with
      | ok _ => trivial
      | error e => exact Proc.ensures_after _ pure (.warn _) fun _ => trivial

def Event.FailsArchiving : Event → Prop
  | ⟨.chatWithin _ _ _, reply⟩ => ArchiveJob.summary? reply = none
  | ⟨.remember _, .error _⟩ => True
  | _ => False

structure ArchiveJob.KeptFrom (job : ArchiveJob) (events : List Event) (entry : MemoryEntry) :
    Prop where
  reply : ∃ request response, (⟨.chatWithin job.timeout job.provider request,
      .inTime (.finished (.ok response))⟩ : Event) ∈ events ∧
    entry.content = Text.trim response.content
  content : entry.content.isEmpty = false
  tags : entry.tags = archiveTags
  source : entry.source = some job.sessionId

-- One request about the messages that were cleared, and one entry of the reply to it at most. There
-- is an entry in the end, unless something failed.
structure ArchiveJob.Faithful (job : ArchiveJob) (events : List Event) (ended : Bool) : Prop where
  asksOnce : (requests events).length ≤ 1
  asked : ended = true → (requests events).length = 1
  transcript : ∀ request ∈ requests events, ∃ stamp,
    request = Summary.request stamp job.messages job.maxTokens ∧
      request.messages = [.user stamp (renderTranscript job.messages)]
  storesOnce : (stored events).length ≤ 1
  kept : ∀ entry ∈ stored events, job.KeptFrom events entry
  failed : ∀ event ∈ events, event.FailsArchiving → stored events = []
  lost : ended = true → stored events = [] → ∃ event ∈ events, event.FailsArchiving

theorem summary_of_response (reply : Timed (Raced Effect.Reply)) (summary : String)
    (told : ArchiveJob.summary? reply = some summary) :
    ∃ response, reply = .inTime (.finished (.ok response)) ∧
      summary = Text.trim response.content ∧ summary.isEmpty = false := by
  cases reply with
  | late => cases told
  | inTime reply =>
      rw [ArchiveJob.summary?] at told
      cases outcome : Summary.ofReply reply with
      | error e =>
          rw [outcome] at told
          cases told
      | ok text =>
          rw [outcome] at told
          cases told
          obtain ⟨response, rfl, content, filled⟩ := of_reply_ok reply summary outcome
          exact ⟨response, rfl, content, filled⟩

section Course

variable (job : ArchiveJob) {events : List Event} {ended : Bool}

def ArchiveJob.Sends (events : List Event) (ended : Bool) : Prop :=
  (requests events = [] ∧ ended = false) ∨ ∃ asked, requests events = [job.request asked]

theorem sends_once (sends : job.Sends events ended) :
    (requests events).length ≤ 1 ∧ (ended = true → (requests events).length = 1) ∧
      ∀ request ∈ requests events, ∃ stamp,
        request = Summary.request stamp job.messages job.maxTokens ∧
          request.messages = [.user stamp (renderTranscript job.messages)] := by
  rcases sends with ⟨none, unended⟩ | ⟨asked, one⟩
  · rw [none, unended]
    simp
  · rw [one]
    refine ⟨Nat.le_refl 1, fun _ => rfl, ?_⟩
    intro request member
    rw [List.mem_singleton.mp member]
    exact ⟨asked, rfl, rfl⟩

theorem faithful_unstored (sends : job.Sends events ended) (nothing : stored events = [])
    (fails : ended = true → ∃ event ∈ events, event.FailsArchiving) :
    job.Faithful events ended := by
  obtain ⟨once, asked, transcript⟩ := sends_once job sends
  exact ⟨once, asked, transcript, by simp [nothing], by simp [nothing], fun _ _ _ => nothing,
    fun final _ => fails final⟩

theorem faithful_kept (asked made : Stamp) (reply : Timed (Raced Effect.Reply)) (summary : String)
    (told : ArchiveJob.summary? reply = some summary) :
    job.Faithful [⟨.stamp, asked⟩, job.asking asked reply, ⟨.stamp, made⟩,
      job.keeping made summary (.ok ())] true := by
  have sends : job.Sends [⟨.stamp, asked⟩, job.asking asked reply, ⟨.stamp, made⟩,
      job.keeping made summary (.ok ())] true := .inr ⟨asked, rfl⟩
  obtain ⟨once, sent, transcript⟩ := sends_once job sends
  obtain ⟨response, rfl, content, filled⟩ := summary_of_response reply summary told
  refine ⟨once, sent, transcript, Nat.le_refl 1, ?_, ?_, ?_⟩
  · intro entry member
    have same : entry = job.entry made summary := List.mem_singleton.mp member
    rw [same]
    exact ⟨⟨job.request asked, response, by simp [ArchiveJob.asking], content⟩, filled, rfl, rfl⟩
  · intro event member fails
    simp only [List.mem_cons, List.not_mem_nil, or_false] at member
    rcases member with rfl | rfl | rfl | rfl
    · exact fails.elim
    · rw [ArchiveJob.asking, Event.FailsArchiving, told] at fails
      cases fails
    · exact fails.elim
    · exact fails.elim
  · intro _ nothing
    cases nothing

theorem course_faithful (course : job.Course events ended) : job.Faithful events ended := by
  cases course with
  | begun | stamped =>
      exact faithful_unstored job (.inl ⟨rfl, rfl⟩) rfl fun final => nomatch final
  | asked asked | summarized asked | rejected asked =>
      exact faithful_unstored job (.inr ⟨asked, rfl⟩) rfl fun final => nomatch final
  | unsummarized asked reply text nothing =>
      refine faithful_unstored job (.inr ⟨asked, rfl⟩) rfl fun _ => ?_
      exact ⟨job.asking asked reply, by simp, nothing⟩
  | unkept asked made reply summary text e told =>
      refine faithful_unstored job (.inr ⟨asked, rfl⟩) rfl fun _ => ?_
      exact ⟨job.keeping made summary (.error e), by simp, trivial⟩
  | kept asked made reply summary told => exact faithful_kept job asked made reply summary told

end Course

def Conversation.due (conversation : Conversation) (content : String) : List ArchiveJob :=
  if conversation.isReset content && conversation.archives conversation.history then
    [conversation.archiveJob conversation.history] else []

def Conversation.Resumed (conversation : Conversation) (content : String)
    (after : Conversation) : Prop :=
  after.settings = conversation.settings ∧
    (conversation.isReset content = true → after.history = [])

theorem quiet_unarchiving (effect : Effect) (quiet : effect.Quiet) : effect.isArchiving = false := by
  cases effect <;> first
    | rfl
    | exact quiet.elim

section Handling

variable (conversation : Conversation)

theorem persist_unarchiving :
    conversation.persist.Ensures (fun effect => effect.isArchiving = false) fun _ => True := by
  rw [Conversation.persist]
  cases conversation.settings.stored with
  | false => trivial
  | true =>
      refine Proc.ensures_after _ _ rfl fun saved => ?_
      cases saved with
      | ok _ => trivial
      | error e => exact Proc.ensures_after (.log _) pure rfl fun _ => trivial

theorem reply_unarchiving (text : String) :
    (conversation.reply text).Ensures (fun effect => effect.isArchiving = false)
      fun handled => handled.conversation = conversation := by
  refine Proc.ensures_after _ _ rfl fun written => ?_
  cases written <;> rfl

theorem answer_unarchiving (prepared : List Message) :
    (conversation.answer prepared).Ensures (fun effect => effect.isArchiving = false)
      fun handled => handled.conversation.settings = conversation.settings := by
  apply Proc.ensures_bind _ _ (Proc.ensures_mono _ (loop_quiet _ _ _) quiet_unarchiving
    fun _ _ => trivial)
  intro result _
  cases result.outcome with
  | error e => exact rfl
  | ok response =>
      apply Proc.ensures_bind _ _
        (persist_unarchiving { conversation with history := result.history })
      intro _ _
      cases response.content.isEmpty with
      | true => exact rfl
      | false =>
          apply Proc.ensures_mono _ (reply_unarchiving _ response.content) (fun _ may => may)
          intro handled kept
          rw [kept]

theorem turn_unarchiving (content : String) :
    (conversation.turn content).Ensures (fun effect => effect.isArchiving = false)
      fun handled => handled.conversation.settings = conversation.settings := by
  rw [turn_prepared]
  refine Proc.ensures_after _ _ rfl fun stamp => ?_
  apply Proc.ensures_bind _ _ (Proc.ensures_mono _ (prepare_ensures conversation content stamp)
    (fun effect may => quiet_unarchiving effect (of_compaction_quiet effect may))
    fun _ _ => trivial)
  intro prepared _
  cases prepared with
  | error e => exact rfl
  | ok compacted => exact answer_unarchiving conversation _

theorem reset_spawns :
    conversation.reset.Spawns
      (fun handled => handled.conversation = { conversation with history := [] })
      (if conversation.archives conversation.history then
        [conversation.archiveJob conversation.history] else []) := by
  have persisted := spawns_nothing _ (persist_unarchiving { conversation with history := [] })
  have replied := spawns_nothing _
    (reply_unarchiving { conversation with history := [] } resetAcknowledgement)
  rw [Conversation.reset]
  refine spawns_bind _ _ [] _ persisted fun _ _ => ?_
  dsimp only
  cases conversation.archives conversation.history with
  | false => exact replied
  | true => exact .perform (.archive _) _ [] rfl fun _ => replied

theorem handle_spawns (content : String) :
    (conversation.handle content).Spawns
      (fun handled => conversation.Resumed content handled.conversation)
      (conversation.due content) := by
  rw [Conversation.handle, Conversation.due]
  cases kind : conversation.isReset content with
  | true =>
      rw [if_pos rfl, Bool.true_and]
      refine spawns_mono _ _ (reset_spawns conversation) fun handled cleared => ?_
      rw [cleared]
      exact ⟨rfl, fun _ => rfl⟩
  | false =>
      rw [if_neg Bool.false_ne_true, Bool.false_and, if_neg Bool.false_ne_true]
      apply spawns_nothing
      apply Proc.ensures_mono _ (turn_unarchiving conversation content) (fun _ may => may)
      intro handled settings
      exact ⟨settings, fun reset => absurd (kind.symm.trans reset) Bool.false_ne_true⟩

theorem conclude_unarchiving (outcome : Except Error Unit) :
    (Dispatch.conclude outcome).Ensures (fun effect => effect.isArchiving = false)
      fun _ => True := by
  cases outcome with
  | ok _ => trivial
  | error e =>
      rw [Dispatch.conclude]
      cases e.isCancelled with
      | true => trivial
      | false =>
          refine Proc.ensures_after _ _ rfl fun late => ?_
          cases late with
          | true => trivial
          | false =>
              refine Proc.ensures_after _ _ rfl fun _ => Proc.ensures_after _ _ rfl fun told => ?_
              cases told with
              | ok _ => trivial
              | error e => exact Proc.ensures_after (.log _) pure rfl fun _ => trivial

theorem worker_spawns (message : Inbound) :
    (Dispatch.handle conversation message).Spawns (conversation.Resumed message.content)
      (conversation.due message.content) := by
  rw [Dispatch.handle, ← List.append_nil (conversation.due message.content)]
  refine spawns_bind _ _ _ [] (handle_spawns conversation message.content) fun handled resumed => ?_
  refine spawns_bind _ _ [] [] (spawns_nothing _ (conclude_unarchiving handled.outcome))
    fun _ _ => ?_
  exact .done _ resumed

theorem due_job (content : String) (job : ArchiveJob) (member : job ∈ conversation.due content) :
    job = conversation.archiveJob conversation.history := by
  rw [Conversation.due] at member
  split at member
  · exact List.mem_singleton.mp member
  · cases member

end Handling

end Dialogue
