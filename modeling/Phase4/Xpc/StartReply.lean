import Phase4.MappedRegion
import Phase4.Xpc.Answers

namespace Phase4.Xpc
open Library Config Headless Bootstrap App Frames

/-- A client that maps the region finds in it what the reply says. -/
structure Heard.Started.Describes (pageSize : Nat) (midi : Bool) (reply : Heard.Started) :
    Prop where
  laid : Laid pageSize reply.channels.length (BitVec.ofInt 32 reply.sampleRate) midi reply.frames
  bytes : reply.frameBytes = Frames.frameBytes reply.channels.length
  increasing : reply.channels.Pairwise (· < ·)

theorem started_describes {Port : Type} {host : Host Port} {config : AppConfig} {ready : ReadyReport}
    {region : FrameRegion} (page : 0 < host.pageSize)
    (describes : Describes host config ready.audio region) :
    (started ready region).Describes host.pageSize config.midiInput.isSome := by
  obtain ⟨made, counted, increasing⟩ := describes
  have laid := laid_new page made
  have length : (started ready region).channels.length = ready.audio.channels.length :=
    List.length_map _
  have rate : BitVec.ofInt 32 (started ready region).sampleRate =
      BitVec.ofNat 32 ready.audio.sampleRate := BitVec.ofInt_natCast _ _
  refine ⟨?_, ?_, ?_⟩
  · rw [length, rate]
    exact laid
  · rw [length, started, laid.count, contractInt, min_eq_left]
    have record : channelRecordBytes = 132 := rfl
    have header : frameHeaderBytes = 64 := rfl
    rw [frameBytes, record, header]
    omega
  · exact List.pairwise_map.mpr (increasing.imp fun below => Int.ofNat_lt.mpr below)

namespace ServiceRun
variable {Port : Type} {schedule : List (Action Port)} {last : State}

theorem given_of_mem {asked : List (Except LinkError Request)} {answers : List Answer}
    {given : Except LinkError Request → Answer → Prop} (matched : List.Forall₂ given asked answers)
    {answer : Answer} (member : answer ∈ answers) : ∃ message ∈ asked, given message answer := by
  induction matched with
  | nil => cases member
  | cons holds _ ih =>
      rcases List.mem_cons.mp member with rfl | later
      · exact ⟨_, List.mem_cons_self, holds⟩
      · obtain ⟨message, among, holds⟩ := ih later
        exact ⟨message, List.mem_cons_of_mem _ among, holds⟩

/-- In every run, a client that reads a start reply finds its region laid out as it says. -/
theorem start_replies_describe_their_regions (run : exec step {} schedule = some last)
    {connection : Nat}
    (sane : ∀ (host : XpcHost Port) slot, Action.handle connection host slot ∈ schedule →
      CountsInU16 host.toHost ∧ 0 < host.pageSize)
    {app : Nat} {body : Dictionary} (sent : Answer.started app body ∈ replies connection last.sent) :
    ∃ host slot, Action.handle connection host slot ∈ schedule ∧
      ∃ request config reply, .ok (.start request) ∈ asked connection schedule ∧
        toAppConfig host.platform host.fromStr request slot = .ok config ∧
        Heard.Reply.read (.ok (.start request)) body = some (.started reply) ∧
        reply.Describes host.pageSize config.midiInput.isSome := by
  obtain ⟨served, owed, ⟨taken, same, included, _⟩, matched, _⟩ :
      ∃ served owed, Served connection schedule last served owed := served_of_run run
  obtain ⟨message, among, host, slot, handled, reply, tells, reads⟩ := given_of_mem matched sent
  have requested : message ∈ asked connection schedule := by
    rw [same]
    exact List.mem_append_left _ (included.subset among)
  obtain ⟨counts, page⟩ := sane host slot handled
  cases tells with
  | started resolved built created shared =>
      obtain ⟨file, _, decided⟩ := bind_eq_ok.mp resolved
      have sorted := (resolved_valid decided rfl).2
      exact ⟨host, slot, handled, _, _, _, requested, resolved, reads,
        started_describes page (describes_of_build counts sorted built created)⟩

theorem studio_counts : CountsInU16 (studioHost true).toHost := by
  rintro _ ⟨⟩ device member config own
  have listed : device = ⟨none, .error "busy"⟩ ∨
      device = ⟨some "Duet 3", .ok ⟨48000, 2, "F32"⟩⟩ := by
    simpa [Managers.studioDevices] using member
  rcases listed with rfl | rfl
  · cases own
  · cases own
    norm_num

def Answer.isStarted : Answer → Bool
  | .started _ _ => true
  | _ => false

theorem tone_start_describes_its_region : ∃ last app body reply,
    exec step {} (.accept :: startOn 0) = some last ∧
    Answer.started app body ∈ replies 0 last.sent ∧
    Heard.Reply.read (.ok (.start toneRequest)) body = some (.started reply) ∧
    reply.Describes 16384 false := by
  have reached : (exec step {} (.accept :: startOn 0)).map (fun last =>
      (replies 0 last.sent).any Answer.isStarted) = some true := by
    decide +kernel
  obtain ⟨last, run, answered⟩ := Option.map_eq_some_iff.mp reached
  obtain ⟨answer, sent, isStarted⟩ := List.any_eq_true.mp answered
  cases answer with
  | stopped | other => cases isStarted
  | started app body =>
      have served (host : XpcHost (Option String)) (slot : FrameRegionSlot)
          (member : Action.handle 0 host slot ∈ .accept :: startOn 0) : host = studioHost true := by
        simp [startOn, serve] at member
        exact member.1
      have sane (host : XpcHost (Option String)) (slot : FrameRegionSlot)
          (member : Action.handle 0 host slot ∈ .accept :: startOn 0) :
          CountsInU16 host.toHost ∧ 0 < host.pageSize := by
        rw [served host slot member]
        exact ⟨studio_counts, by decide⟩
      obtain ⟨host, slot, handled, request, config, reply, requested, resolved, reads, describes⟩ :=
        start_replies_describe_their_regions run sane sent
      obtain rfl := served host slot handled
      have same : request = toneRequest := by
        simpa [asked, startOn, serve] using requested
      subst same
      cases resolved
      exact ⟨last, app, body, reply, run, sent, reads, describes⟩

end ServiceRun
end Phase4.Xpc
