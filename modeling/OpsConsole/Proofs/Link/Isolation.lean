import OpsConsole.Proofs.Feed.Projection
import OpsConsole.Proofs.Link.Renumbering

/-!
# What a session can see of the ones before it

A note records what an event adds to what is received or subscribed: a frame accepted over the
link that is held, an acknowledgement, a subscription or its end. The journal of a run holds the
notes since the last teardown. What a connection has received and subscribed is what its journal
replays from nothing, and each frame in it came over a link that was opened with the token still
held.

So nothing is left of what was before a teardown: two runs with any pasts, in which the same
happens from a teardown on, have received and subscribed the same. Links and timers are counted
from the teardown for that, since their numbers tell how many were given out before.
-/

namespace OpsConsole

inductive Note
  | frame (link : Nat) (f : Frame)
  | acknowledge (id : String)
  | subscribe (process : String)
  | unsubscribe (process : String)
  deriving DecidableEq

namespace Note

/-- What a note does to what was received. The lines of a process go with its subscription. -/
def onChannels {limits : Limits} (c : Channels limits) : Note → Channels limits
  | frame _ f => c.ingest f
  | acknowledge id => c.acknowledge id
  | unsubscribe process => c.dropLines process
  | subscribe _ => c

def onSubscriptions (s : TextSet) : Note → TextSet
  | subscribe process => s.insert process
  | unsubscribe process => s.erase process
  | _ => s

end Note

namespace Connection

variable {o : LinkOptions}

/-- What is noted of an event. A text is noted if it is a frame and came over the link held. -/
def note? (c : Connection o) : LinkEvent → Option Note
  | .received n raw =>
    if c.phase.link? = some n then
      match Frame.decode o.frameLimit raw with
      | .ok f => some (.frame n f)
      | .error _ => none
    else none
  | .acknowledge id => some (.acknowledge id)
  | .subscribe process => some (.subscribe process)
  | .unsubscribe process => some (.unsubscribe process)
  | _ => none

/-- The notes of a run, which a teardown throws away. -/
def journal (c : Connection o) (notes : List Note) : List LinkEvent → List Note
  | [] => notes
  | e :: rest =>
    (c.step e).1.journal (if c.tearsDown e then [] else notes ++ (c.note? e).toList) rest

/-- A link that was opened with a token. -/
def OpenedWith (token : Option BearerToken) (calls : List Call) (n : Nat) : Prop :=
  ∃ t, token = some t ∧ .openLink n t ∈ calls

theorem OpenedWith.append {token : Option BearerToken} {calls : List Call} {n : Nat}
    (h : OpenedWith token calls n) (more : List Call) : OpenedWith token (calls ++ more) n := by
  obtain ⟨t, ht, hin⟩ := h
  exact ⟨t, ht, List.mem_append_left _ hin⟩

/-- What a connection holds, told by its notes and the calls made so far. -/
structure Recorded (c : Connection o) (notes : List Note) (calls : List Call) : Prop where
  channels : c.inbox.channels = notes.foldl Note.onChannels ∅
  subscriptions : c.subscriptions = notes.foldl Note.onSubscriptions ∅
  link : ∀ n, c.phase.link? = some n → OpenedWith c.token calls n
  frames : ∀ n f, .frame n f ∈ notes → OpenedWith c.token calls n

theorem recorded_start : (start : Connection o).Recorded [] [] :=
  ⟨rfl, rfl, nofun, nofun⟩

namespace Recorded

variable {c d : Connection o} {notes : List Note} {calls : List Call}

theorem no_frames (h : c.Recorded notes calls) (ht : c.token = none) (n : Nat) (f : Frame) :
    .frame n f ∉ notes := by
  intro hin
  obtain ⟨t, htoken, _⟩ := h.frames n f hin
  cases ht.symm.trans htoken

theorem append (h : c.Recorded notes calls) (more : List Call) :
    c.Recorded notes (calls ++ more) :=
  ⟨h.channels, h.subscriptions, fun n hn => (h.link n hn).append more,
    fun n f hin => (h.frames n f hin).append more⟩

/-- An event that keeps the token, adds nothing and opens no link. -/
theorem of_same (h : c.Recorded notes calls)
    (hc : d.inbox.channels = c.inbox.channels) (hs : d.subscriptions = c.subscriptions)
    (ht : d.token = c.token) (hl : ∀ n, d.phase.link? = some n → c.phase.link? = some n) :
    d.Recorded notes calls := by
  refine ⟨hc.trans h.channels, hs.trans h.subscriptions, ?_, ?_⟩
  · intro n hn
    rw [ht]
    exact h.link n (hl n hn)
  · rw [ht]
    exact h.frames

/-- An event that only adds a note. A frame that is noted came over the link held. -/
theorem of_note (h : c.Recorded notes calls) (note : Note)
    (hc : d.inbox.channels = note.onChannels c.inbox.channels)
    (hs : d.subscriptions = note.onSubscriptions c.subscriptions)
    (ht : d.token = c.token) (hp : d.phase = c.phase)
    (hn : ∀ n f, note = .frame n f → c.phase.link? = some n) :
    d.Recorded (notes ++ [note]) calls := by
  refine ⟨?_, ?_, ?_, ?_⟩
  · rw [hc, h.channels, List.foldl_append]
    rfl
  · rw [hs, h.subscriptions, List.foldl_append]
    rfl
  · rw [hp, ht]
    exact h.link
  · intro n f hin
    rw [ht]
    rcases List.mem_append.1 hin with hold | hnew
    · exact h.frames n f hold
    · exact h.link n (hn n f (List.mem_singleton.1 hnew).symm)

theorem openLink (h : c.Recorded notes calls) :
    (c.openLink).1.Recorded notes (calls ++ c.openLink.2) := by
  unfold Connection.openLink
  split
  · have hidle : Recorded { c with phase := .idle } notes calls := h.of_same rfl rfl rfl nofun
    exact hidle.append []
  · next token ht =>
    refine ⟨h.channels, h.subscriptions, ?_, ?_⟩
    · rintro n ⟨rfl⟩
      exact ⟨token, ht, by simp⟩
    · intro n f hin
      exact (h.frames n f hin).append _

/-- A connect that is not ignored keeps the notes if the token is the one held, or if none is
held and so nothing was received. -/
theorem joined (h : c.Recorded notes calls) (s : Session) :
    (c.joined s).Recorded (if c.tearsDown (.connect s) then [] else notes)
      (calls ++ (c.phase.release ++ [.openLink (c.links + 1) s.token])) := by
  have hlink : ∀ n, (c.joined s).phase.link? = some n →
      OpenedWith (c.joined s).token
        (calls ++ (c.phase.release ++ [.openLink (c.links + 1) s.token])) n := by
    rintro n ⟨rfl⟩
    exact ⟨s.token, rfl, by simp⟩
  by_cases ht : c.tearsDown (.connect s)
  · refine ⟨?_, ?_, hlink, ?_⟩
    · simp [Connection.joined, ht, Inbox.clear, Inbox.onChannels]
    · simp [Connection.joined, ht]
    · simp [ht]
  · simp only [ht, Bool.false_eq_true, if_false]
    refine ⟨?_, ?_, hlink, ?_⟩
    · simpa [Connection.joined, ht] using h.channels
    · simpa [Connection.joined, ht] using h.subscriptions
    · intro n f hin
      cases htoken : c.token with
      | none => exact (h.no_frames htoken n f hin).elim
      | some token =>
        have hsame : token = s.token := by simpa [tearsDown, htoken] using ht
        have hopened := (h.frames n f hin).append
          (c.phase.release ++ [.openLink (c.links + 1) s.token])
        rwa [htoken, hsame] at hopened

theorem opened (h : c.Recorded notes calls) (n : Nat) : (c.opened n).Recorded notes calls := by
  by_cases hp : c.phase = .connecting n
  · rw [opened_of_eq hp]
    refine h.of_same rfl rfl rfl ?_
    intro m hm
    rwa [hp]
  · rwa [opened_of_ne hp]

theorem received (h : c.Recorded notes calls) (n : Nat) (raw : String) :
    (c.received n raw).1.Recorded (notes ++ (c.note? (.received n raw)).toList) calls := by
  rw [note?]
  by_cases hl : c.phase.link? = some n
  · rw [received_of_eq hl, if_pos hl]
    cases hd : Frame.decode o.frameLimit raw with
    | ok f =>
      have hc := congrArg (·.1.channels) (Inbox.receive_of_ok hd c.inbox)
      refine h.of_note (.frame n f) hc rfl rfl rfl ?_
      rintro _ _ ⟨rfl, rfl⟩
      exact hl
    | error cause =>
      rw [Option.toList_none, List.append_nil]
      have hc := congrArg (·.1.channels) (Inbox.receive_of_error hd c.inbox)
      exact h.of_same hc rfl rfl fun _ => id
  · rwa [received_of_ne hl, if_neg hl, Option.toList_none, List.append_nil]

theorem lost (h : c.Recorded notes calls) (n : Nat) :
    (c.lost n).1.Recorded notes (calls ++ (c.lost n).2) := by
  by_cases hl : c.phase.link? = some n
  · have hlost : Recorded (c.lost n).1 notes calls := by
      rw [lost_of_eq hl]
      exact h.of_same rfl rfl rfl (by simp [Phase.link?])
    exact hlost.append _
  · rw [lost_of_ne hl]
    exact h.append []

theorem due (h : c.Recorded notes calls) (n : Nat) :
    (c.due n).1.Recorded notes (calls ++ (c.due n).2) := by
  by_cases ha : c.awaits n
  · rw [due_of_awaits ha]
    have hidle : Recorded { c with phase := .idle } notes calls :=
      h.of_same rfl rfl rfl (by simp [Phase.link?])
    exact hidle.openLink
  · rw [due_of_not_awaits (Bool.eq_false_iff.2 ha)]
    exact h.append []

end Recorded

theorem recorded_step {c : Connection o} {notes : List Note} {calls : List Call}
    (h : c.Recorded notes calls) (e : LinkEvent) :
    (c.step e).1.Recorded (if c.tearsDown e then [] else notes ++ (c.note? e).toList)
      (calls ++ (c.step e).2) := by
  cases e with
  | connect s =>
    simp only [note?, Option.toList_none, List.append_nil]
    by_cases hsame : c.phase.isActive ∧ c.token = some s.token
    · have hkeep : c.tearsDown (.connect s) = false := by simp [tearsDown, hsame.2]
      simp only [step, connect_of_same hsame, hkeep]
      exact h.append []
    · simp only [step, connect_of_not_same hsame]
      exact h.joined s
  | disconnect =>
    exact ⟨rfl, rfl, by simp [step, disconnect, Phase.link?], by simp [tearsDown]⟩
  | opened n => simpa [step, tearsDown, note?] using h.opened n
  | received n raw => simpa [step, tearsDown] using h.received n raw
  | lost n => simpa [step, tearsDown, note?] using h.lost n
  | due n => simpa [step, tearsDown, note?] using h.due n
  | subscribe process =>
    have hnew : Recorded (c.subscribe process).1 (notes ++ [.subscribe process]) calls :=
      h.of_note _ rfl rfl rfl rfl (by simp)
    exact hnew.append []
  | unsubscribe process =>
    have hnew : Recorded (c.unsubscribe process).1 (notes ++ [.unsubscribe process]) calls :=
      h.of_note _ rfl rfl rfl rfl (by simp)
    exact hnew.append []
  | acknowledge id =>
    have hnew : Recorded (c.acknowledge id).1 (notes ++ [.acknowledge id]) calls :=
      h.of_note _ rfl rfl rfl rfl (by simp)
    exact hnew.append []

theorem recorded_run {c : Connection o} {notes : List Note} {calls : List Call}
    (h : c.Recorded notes calls) (es : List LinkEvent) :
    (c.run es).1.Recorded (c.journal notes es) (calls ++ (c.run es).2) := by
  induction es generalizing c notes calls with
  | nil => simpa [journal] using h
  | cons e rest ih =>
    have hrest := ih (recorded_step h e)
    rwa [List.append_assoc] at hrest

/-- An event that tears nothing down and is not noted takes nothing away. -/
theorem kept_of_not_noted {c : Connection o} {notes : List Note} {calls : List Call}
    (h : c.Recorded notes calls) {e : LinkEvent} (hdown : c.tearsDown e = false)
    (hnote : c.note? e = none) :
    (c.step e).1.inbox.channels = c.inbox.channels ∧
      (c.step e).1.subscriptions = c.subscriptions := by
  have hnext := recorded_step h e
  simp only [hdown, hnote, Bool.false_eq_true, if_false, Option.toList_none,
    List.append_nil] at hnext
  exact ⟨hnext.channels.trans h.channels.symm, hnext.subscriptions.trans h.subscriptions.symm⟩

/-- Wherever a run has led, what was received and subscribed is what the notes since the last
teardown add up to, and every frame among them came over a link opened with the token now held.
Nothing that is not noted takes anything away: a loss, a reconnect, an ignored connect, a stale
event. And two runs with any pasts that agree from a teardown on, links and timers counted from
there, have received and subscribed the same. -/
theorem sees_only_since_teardown (es : List LinkEvent) :
    let c := ((start : Connection o).run es).1
    let notes := (start : Connection o).journal [] es
    c.inbox.channels = notes.foldl Note.onChannels ∅ ∧
    c.subscriptions = notes.foldl Note.onSubscriptions ∅ ∧
    (∀ n f, .frame n f ∈ notes → OpenedWith c.token ((start : Connection o).run es).2 n) ∧
    (∀ e, c.tearsDown e = false → c.note? e = none →
      (c.step e).1.inbox.channels = c.inbox.channels ∧
        (c.step e).1.subscriptions = c.subscriptions) ∧
    (∀ (schedule : Schedule) (words : WordSource) (es' : List LinkEvent),
      let d := ((start : Connection { o with schedule := schedule, words := words }).run es').1
      ∀ e, c.tearsDown e = true → d.tearsDown e = true →
      ∀ later later', later.map (·.relative c.links c.timers) =
          later'.map (·.relative d.links d.timers) →
        (c.run (e :: later)).1.inbox.channels = (d.run (e :: later')).1.inbox.channels ∧
          (c.run (e :: later)).1.subscriptions = (d.run (e :: later')).1.subscriptions) := by
  intro c notes
  have h : c.Recorded notes ((start : Connection o).run es).2 := recorded_run recorded_start es
  refine ⟨h.channels, h.subscriptions, h.frames, fun e => kept_of_not_noted h, ?_⟩
  intro schedule words es' d e hc hd later later' hl
  have halike := alike_run (alike_of_tearsDown hc hd) hl
  exact ⟨halike.channels, halike.subscriptions⟩

/-- What came before another session connects makes no difference to what it receives. -/
theorem next_session_alike :
    let o : LinkOptions := ⟨BackoffPolicy.standard.schedule, fun _ => 0, {}, Frame.defaultLimit⟩
    let s : Session := ⟨⟨"token", by decide, by decide⟩, default⟩
    let next : Session := ⟨⟨"next", by decide, by decide⟩, default⟩
    let text := (Frame.logLine ⟨"web", "started"⟩).encode
    let c := ((start : Connection o).run [.connect s, .received 1 text]).1
    let d := ((start : Connection o).run [.connect s, .lost 1, .due 1, .subscribe "web"]).1
    (c.run [.connect next, .received 2 text]).1.inbox.channels =
      (d.run [.connect next, .received 3 text]).1.inbox.channels := by
  intro o s next text c d
  exact ((sees_only_since_teardown [.connect s, .received 1 text]).2.2.2.2 o.schedule o.words
    [.connect s, .lost 1, .due 1, .subscribe "web"] (.connect next) rfl rfl
    [.received 2 text] [.received 3 text] rfl).1

end Connection

end OpsConsole
