import Mathlib.Data.List.Basic
import SignerLink.State.Basic
import SignerLink.Watched
/-!
What one subscriber is told of a published value. It asks for changes, and may then be turned into
a stream. Whatever is published between its questions, it hears of publications in their order,
and of each at most once, except that a stream may begin with the one that was returned last; and
after every question it has heard of the latest.
-/

namespace SignerLink

inductive Subscriber (α : Type) where
  | watcher (inner : Watcher α)
  | stream (inner : WatchStream α)

namespace Subscriber

variable {α : Type}

def inner : Subscriber α → Watcher α
  | .watcher inner => inner
  | .stream inner => inner.watcher

def isStream : Subscriber α → Bool
  | .watcher _ => false
  | .stream _ => true

def hasStarted : Subscriber α → Bool
  | .watcher _ => false
  | .stream inner => inner.started

def mark (subscriber : Subscriber α) : α × Nat := (subscriber.inner.current, subscriber.inner.seen)

theorem hasStarted_of_watcher {subscriber : Subscriber α} (watches : subscriber.isStream = false) :
    subscriber.hasStarted = false := by
  cases subscriber with
  | watcher _ => rfl
  | stream _ => cases watches

end Subscriber

/-- A published value and one of its subscribers. -/
structure Feed (α : Type) where
  watched : Watched α
  subscriber : Subscriber α

inductive FeedAction (α : Type) where
  | publish (value : α)
  | poll (closed : Bool)
  | turnIntoStream

def FeedAction.published? {α : Type} : FeedAction α → Option α
  | .publish value => some value
  | .poll _ | .turnIntoStream => none

def Watched.latest {α : Type} (watched : Watched α) : α × Nat := (watched.value, watched.version)

namespace Feed

variable {α : Type}

def start (watched : Watched α) : Feed α := ⟨watched, .watcher (.subscribe watched)⟩

def poll (feed : Feed α) (closed : Bool) : Feed α × Look α :=
  match feed.subscriber with
  | .watcher watcher =>
      let (watcher, look) := watcher.changed feed.watched closed
      ({ feed with subscriber := .watcher watcher }, look)
  | .stream stream =>
      let (stream, look) := stream.next feed.watched closed
      ({ feed with subscriber := .stream stream }, look)

def act (feed : Feed α) : FeedAction α → Feed α
  | .publish value => { feed with watched := feed.watched.publish value }
  | .poll closed => (feed.poll closed).1
  | .turnIntoStream =>
      match feed.subscriber with
      | .watcher watcher => { feed with subscriber := .stream (.ofWatcher watcher) }
      | .stream _ => feed

def after (feed : Feed α) (actions : List (FeedAction α)) : Feed α := actions.foldl act feed

def told (feed : Feed α) : FeedAction α → List (α × Nat)
  | .poll closed => (feed.poll closed).2.toList.map fun value => (value, feed.watched.version)
  | .publish _ | .turnIntoStream => []

def returned (feed : Feed α) : List (FeedAction α) → List (α × Nat)
  | [] => []
  | action :: later =>
      (if feed.subscriber.isStream then [] else feed.told action) ++
        (feed.act action).returned later

def yielded (feed : Feed α) : List (FeedAction α) → List (α × Nat)
  | [] => []
  | action :: later =>
      (if feed.subscriber.isStream then feed.told action else []) ++
        (feed.act action).yielded later

/-- The value that the subscription starts with and those published later, with their numbers. -/
def publications (watched : Watched α) (actions : List (FeedAction α)) : List (α × Nat) :=
  (watched.value :: actions.filterMap FeedAction.published?).zipIdx watched.version

variable {feed : Feed α} {first : α × Nat} {sent looked unlooked got shown : List (α × Nat)}

/-! One question. -/

theorem poll_cases (feed : Feed α) (closed : Bool) :
    (∃ subscriber : Subscriber α,
      feed.poll closed = (⟨feed.watched, subscriber⟩, .found feed.watched.value) ∧
        subscriber.mark = feed.watched.latest ∧
        subscriber.isStream = feed.subscriber.isStream ∧
        subscriber.hasStarted = feed.subscriber.isStream ∧
        (feed.subscriber.hasStarted = feed.subscriber.isStream →
          feed.subscriber.inner.seen ≠ feed.watched.version)) ∨
      (feed.poll closed).1 = feed ∧ (feed.poll closed).2.toList = [] ∧
        feed.subscriber.inner.seen = feed.watched.version ∧
        feed.subscriber.hasStarted = feed.subscriber.isStream := by
  obtain ⟨watched, subscriber⟩ := feed
  cases subscriber with
  | watcher watcher =>
      by_cases seen : watched.version = watcher.seen
      · refine .inr ?_
        cases closed <;> simp [poll, Watcher.changed, seen, Look.toList, Subscriber.inner,
          Subscriber.isStream, Subscriber.hasStarted]
      · refine .inl ⟨.watcher ⟨watched.value, watched.version⟩, ?_, rfl, rfl, rfl,
          fun _ same => seen same.symm⟩
        simp [poll, Watcher.changed, seen]
  | stream stream =>
      obtain ⟨watcher, started⟩ := stream
      cases started with
      | false =>
          exact .inl ⟨.stream ⟨⟨watched.value, watched.version⟩, true⟩, rfl, rfl, rfl, rfl, nofun⟩
      | true =>
          by_cases seen : watched.version = watcher.seen
          · refine .inr ?_
            cases closed <;> simp [poll, WatchStream.next, Watcher.changed, seen, Look.toList,
              Subscriber.inner, Subscriber.isStream, Subscriber.hasStarted]
          · refine .inl ⟨.stream ⟨⟨watched.value, watched.version⟩, true⟩, ?_, rfl, rfl, rfl,
              fun _ same => seen same.symm⟩
            simp [poll, WatchStream.next, Watcher.changed, seen]

theorem poll_of_seen (started : feed.subscriber.hasStarted = feed.subscriber.isStream)
    (seen : feed.subscriber.inner.seen = feed.watched.version) (closed : Bool) :
    (feed.poll closed).2.toList = [] := by
  rcases feed.poll_cases closed with ⟨_, _, _, _, _, unseen⟩ | idle
  · exact absurd seen (unseen started)
  · exact idle.2.1

theorem poll_watched (feed : Feed α) (closed : Bool) :
    (feed.poll closed).1.watched = feed.watched := by
  rcases feed.poll_cases closed with ⟨_, answer, _⟩ | ⟨same, _⟩
  · rw [answer]
  · rw [same]

theorem poll_poll (feed : Feed α) (closed again : Bool) :
    ((feed.poll closed).1.poll again).2.toList = [] := by
  rcases feed.poll_cases closed with
    ⟨subscriber, answer, mark, kind, started, _⟩ | ⟨same, _, seen, started⟩
  · have seen : subscriber.inner.seen = feed.watched.version := congrArg Prod.snd mark
    rw [answer]
    exact poll_of_seen (started.trans kind.symm) seen again
  · rw [same]
    exact poll_of_seen started seen again

/-! What is kept while values are published and asked for. -/

/-- Told of each publication at most once and in order, except that the stream may begin with the
one that was returned last. -/
def InTurn (sent got shown : List (α × Nat)) : Prop :=
  (got ++ shown).Sublist sent ∨
    ∃ repeated more, shown = repeated :: more ∧ got.getLast? = some repeated ∧
      (got ++ more).Sublist sent

theorem InTurn.append (inTurn : InTurn sent got shown) (later : List (α × Nat)) :
    InTurn (sent ++ later) got shown := by
  rcases inTurn with once | ⟨repeated, more, begins, last, once⟩
  · exact .inl (once.trans (List.sublist_append_left sent later))
  · exact .inr ⟨repeated, more, begins, last, once.trans (List.sublist_append_left sent later)⟩

/-- The subscriber has looked at all publications but the last few, and was told of the last one
that it looked at. -/
structure Follows (first : α × Nat) (sent got shown : List (α × Nat)) (feed : Feed α) : Prop where
  latest : sent.getLast? = some feed.watched.latest
  looked : ∃ looked unlooked, sent = looked ++ unlooked ∧
    unlooked.length + feed.subscriber.inner.seen = feed.watched.version ∧
    looked.getLast? = some feed.subscriber.mark ∧
    got.Sublist looked ∧ shown.Sublist looked ∧ InTurn looked got shown
  last : (first :: (got ++ shown)).getLast? = some feed.subscriber.mark
  unstarted : feed.subscriber.hasStarted = false → shown = []
  started : feed.subscriber.hasStarted = true → shown ≠ []

theorem Follows.publish (follows : Follows first sent got shown feed) (value : α) :
    Follows first (sent ++ [(value, feed.watched.version + 1)]) got shown
      (feed.act (.publish value)) := by
  obtain ⟨looked, unlooked, split, count, last, returned, yielded, inTurn⟩ := follows.looked
  refine ⟨List.getLast?_concat, ⟨looked, unlooked ++ [(value, feed.watched.version + 1)], ?_, ?_,
    last, returned, yielded, inTurn⟩, follows.last, follows.unstarted, follows.started⟩
  · rw [split, List.append_assoc]
  · simp only [act, Watched.publish, List.length_append, List.length_singleton]
    omega

theorem Follows.turnIntoStream (follows : Follows first sent got shown feed) :
    Follows first sent got shown (feed.act .turnIntoStream) := by
  obtain ⟨watched, subscriber⟩ := feed
  cases subscriber with
  | watcher _ =>
      exact ⟨follows.latest, follows.looked, follows.last, fun _ => follows.unstarted rfl, nofun⟩
  | stream _ => exact follows

theorem concat_sublist {told : List (α × Nat)} {latest : α × Nat} (part : told.Sublist looked)
    (unseen : unlooked ≠ []) (last : (looked ++ unlooked).getLast? = some latest) :
    (told ++ [latest]).Sublist (looked ++ unlooked) := by
  rw [List.getLast?_append_of_ne_nil looked unseen] at last
  exact part.append (List.singleton_sublist.mpr (List.mem_of_getLast? last))

theorem InTurn.goOn (inTurn : InTurn looked got shown) (unseen : unlooked ≠ [])
    {latest : α × Nat} (last : (looked ++ unlooked).getLast? = some latest) :
    InTurn (looked ++ unlooked) got (shown ++ [latest]) := by
  rcases inTurn with once | ⟨repeated, more, rfl, ends, once⟩
  · rw [InTurn, ← List.append_assoc]
    exact .inl (concat_sublist once unseen last)
  · refine .inr ⟨repeated, more ++ [latest], rfl, ends, ?_⟩
    rw [← List.append_assoc]
    exact concat_sublist once unseen last

theorem Follows.begin (follows : Follows first (looked ++ unlooked) got [] feed)
    (returned : got.Sublist looked) (mark : looked.getLast? = some feed.subscriber.mark) :
    InTurn (looked ++ unlooked) got [feed.watched.latest] := by
  have latest := follows.latest
  cases unlooked with
  | cons next rest => exact .inl (concat_sublist returned (List.cons_ne_nil next rest) latest)
  | nil =>
      rw [List.append_nil] at latest ⊢
      cases got with
      | nil => exact .inl (List.singleton_sublist.mpr (List.mem_of_getLast? latest))
      | cons _ _ =>
          have last := follows.last
          rw [List.append_nil, List.getLast?_cons_cons, ← mark, latest] at last
          exact .inr ⟨feed.watched.latest, [], rfl, last, by simpa using returned⟩

theorem Follows.ofTold {watched : Watched α} {subscriber : Subscriber α}
    (latest : sent.getLast? = some watched.latest) (mark : subscriber.mark = watched.latest)
    (returned : got.Sublist sent) (yielded : shown.Sublist sent) (inTurn : InTurn sent got shown)
    (last : (got ++ shown).getLast? = some watched.latest)
    (unstarted : subscriber.hasStarted = false → shown = [])
    (started : subscriber.hasStarted = true → shown ≠ []) :
    Follows first sent got shown ⟨watched, subscriber⟩ := by
  have seen : subscriber.inner.seen = watched.version := congrArg Prod.snd mark
  refine ⟨latest, ⟨sent, [], (List.append_nil sent).symm, ?_, ?_, returned, yielded, inTurn⟩, ?_,
    unstarted, started⟩
  · simpa using seen
  · rw [mark, latest]
  · rw [mark, List.getLast?_cons, last]
    rfl

theorem Follows.poll (follows : Follows first sent got shown feed) (closed : Bool) :
    Follows first sent
      (got ++ if feed.subscriber.isStream then [] else feed.told (.poll closed))
      (shown ++ if feed.subscriber.isStream then feed.told (.poll closed) else [])
      (feed.act (.poll closed)) := by
  rcases feed.poll_cases closed with
    ⟨subscriber, answer, mark, kind, started, unseen⟩ | ⟨same, none, _, _⟩
  · obtain ⟨looked, unlooked, rfl, count, last, returned, yielded, inTurn⟩ := follows.looked
    have latest := follows.latest
    have more (old : feed.subscriber.hasStarted = feed.subscriber.isStream) : unlooked ≠ [] := by
      rintro rfl
      exact unseen old (by simpa using count)
    have told : feed.told (.poll closed) = [feed.watched.latest] := by
      simp only [Feed.told, answer, Look.toList, List.map_cons, List.map_nil, Watched.latest]
    have now : feed.act (.poll closed) = ⟨feed.watched, subscriber⟩ := by rw [act, answer]
    rw [told, now]
    cases asked : feed.subscriber.isStream with
    | false =>
        have early := Subscriber.hasStarted_of_watcher asked
        obtain rfl := follows.unstarted early
        have grown := concat_sublist returned (more (early.trans asked.symm)) latest
        refine .ofTold latest mark grown (List.nil_sublist _) (.inl (by simpa using grown))
          (by simp) (fun _ => rfl) fun began => ?_
        rw [started, asked] at began
        cases began
    | true =>
        have began : subscriber.hasStarted ≠ false := by simp [started, asked]
        have stays := returned.trans (List.sublist_append_left looked unlooked)
        cases early : feed.subscriber.hasStarted with
        | false =>
            obtain rfl := follows.unstarted early
            have whole := List.singleton_sublist.mpr (List.mem_of_getLast? latest)
            exact .ofTold latest mark (by simpa using stays) whole
              (by simpa using follows.begin returned last) (by simp) (absurd · began) (by simp)
        | true =>
            have unseen := more (early.trans asked.symm)
            exact .ofTold latest mark (by simpa using stays) (concat_sublist yielded unseen latest)
              (by simpa using inTurn.goOn unseen latest) (by simp) (absurd · began) (by simp)
  · have told : feed.told (.poll closed) = [] := by simp only [Feed.told, none, List.map_nil]
    rw [told, act, same, ite_self, List.append_nil, List.append_nil]
    exact follows

theorem Follows.after (follows : Follows first sent got shown feed)
    (actions : List (FeedAction α)) :
    Follows first
      (sent ++ (actions.filterMap FeedAction.published?).zipIdx (feed.watched.version + 1))
      (got ++ feed.returned actions) (shown ++ feed.yielded actions) (feed.after actions) := by
  induction actions generalizing feed sent got shown with
  | nil =>
      simp only [returned, yielded, List.filterMap_nil, List.zipIdx_nil, List.append_nil]
      exact follows
  | cons action later ih =>
      rw [returned, yielded, ← List.append_assoc, ← List.append_assoc]
      cases action with
      | publish value =>
          have next := ih (follows.publish value)
          rw [List.append_assoc] at next
          simp only [told, ite_self, List.append_nil]
          exact next
      | turnIntoStream =>
          have same : (feed.act .turnIntoStream).watched = feed.watched := by
            rw [act]
            split <;> rfl
          have next := ih follows.turnIntoStream
          rw [same] at next
          simp only [told, ite_self, List.append_nil]
          exact next
      | poll closed =>
          have next := ih (follows.poll closed)
          rw [show (feed.act (.poll closed)).watched = feed.watched from
            feed.poll_watched closed] at next
          exact next

theorem Follows.start (watched : Watched α) :
    Follows watched.latest [watched.latest] [] [] (start watched) :=
  ⟨rfl, ⟨[watched.latest], [], rfl, Nat.zero_add _, rfl, List.nil_sublist _, List.nil_sublist _,
    .inl (List.nil_sublist _)⟩, rfl, fun _ => rfl, nofun⟩

theorem Follows.caughtUp (follows : Follows first sent got shown feed) {closed : Bool}
    (idle : (feed.poll closed).2.toList = []) :
    (first :: (got ++ shown)).getLast? = sent.getLast? := by
  rcases feed.poll_cases closed with ⟨_, answer, _⟩ | ⟨_, _, seen, _⟩
  · rw [answer] at idle
    cases idle
  · obtain ⟨looked, unlooked, rfl, count, last, _⟩ := follows.looked
    have none : unlooked = [] := List.eq_nil_of_length_eq_zero (by omega)
    rw [follows.last, none, List.append_nil, last]

/-- From the start of a subscription on, whatever is published and whenever the subscriber is asked
for changes, and whether and whenever it is turned into a stream: what is returned and what the
stream yields are publications in their order, the value at the start counted as the first; each of
the two tells of no publication twice, and neither do both together, except that the stream may
begin with the one that was returned last. The value that the subscriber holds is the one returned
last. When a question has no answer, the latest publication was told; and it has none right after
another question. -/
theorem reports_in_turn (watched : Watched α) (actions : List (FeedAction α)) :
    let returned := (start watched).returned actions
    let yielded := (start watched).yielded actions
    let now := (start watched).after actions
    (returned.Sublist (publications watched actions) ∧
      yielded.Sublist (publications watched actions) ∧
      ((returned ++ yielded).Sublist (publications watched actions) ∨
        ∃ repeated more, yielded = repeated :: more ∧ returned.getLast? = some repeated ∧
          (returned ++ more).Sublist (publications watched actions))) ∧
    (∀ watcher, now.subscriber = .watcher watcher →
      (watched.latest :: returned).getLast?.map Prod.fst = some watcher.current) ∧
    (∀ closed, (now.poll closed).2.toList = [] →
      (watched.latest :: (returned ++ yielded)).getLast? =
        (publications watched actions).getLast?) ∧
    ∀ closed again, ((now.poll closed).1.poll again).2.toList = [] := by
  intro returned yielded now
  have follows : Follows watched.latest (publications watched actions) returned yielded now :=
    (Follows.start watched).after actions
  obtain ⟨looked, unlooked, split, _, _, got, shown, inTurn⟩ := follows.looked
  have part := List.sublist_append_left looked unlooked
  rw [← split] at part
  refine ⟨⟨got.trans part, shown.trans part, split ▸ inTurn.append unlooked⟩, ?_,
    fun _ idle => follows.caughtUp idle, fun closed again => now.poll_poll closed again⟩
  intro watcher watches
  have silent : yielded = [] := follows.unstarted (by rw [watches]; rfl)
  have last := follows.last
  rw [silent, List.append_nil, watches] at last
  rw [last]
  rfl

/-- A stream repeats the state that was returned right before it began. -/
theorem stream_repeats_last_returned :
    ¬∀ (watched : Watched ConnectionState) (actions : List (FeedAction ConnectionState)),
      ((start watched).returned actions ++ (start watched).yielded actions).Sublist
        (publications watched actions) := by
  intro once
  have twice := (once ⟨.disconnected, 0⟩
    [.publish .connecting, .poll false, .turnIntoStream, .poll false]).eq_of_length rfl
  exact absurd (congrArg List.head? twice) (by decide)

end Feed

end SignerLink
