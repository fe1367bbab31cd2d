import GpioBroker.Proofs.Telling

/-!
# Reports of the ownership

One attempt to own the name, with messages, the end of its bus, its cancellation and the release of
the connection in any order between its steps.  Every event that is posted comes from a step of the
attempt or from a message.  Those of the attempt are the beginning of one of the three courses;
those of messages are losses, one for each message that revokes the name once the bus was acquired.
-/

namespace GpioBroker

open Act

namespace Connection

variable {ρ : Type}

/-! ### What happens -/

/-- What may happen while an attempt to own the name is made. -/
inductive Happening where
  /-- The attempt goes on. -/
  | resume
  /-- The bus brings a message. -/
  | message (m : Message)
  /-- The bus hangs up. -/
  | hangUp (fault : Option Fault)
  /-- The attempt is cancelled. -/
  | cancel
  /-- The connection is released. -/
  | release

namespace Happening

/-- What the connection does then. -/
def act : Happening → Act (Connection ρ) Unit
  | .resume => Connection.resume 0
  | .message m => deliver m
  | .hangUp fault => Connection.hangUp fault
  | .cancel => Connection.cancel 0
  | .release => Connection.release

/-- Whether it is a step of the attempt. -/
def isResume : Happening → Bool
  | .resume => true
  | _ => false

/-- The host after it. -/
def after (x : Happening) (h : Host (Connection ρ)) : Host (Connection ρ) := (x.act.run h).2

/-- The events that it puts into the queue. -/
def news (x : Happening) (h : Host (Connection ρ)) : List Event :=
  (x.after h).queue.drop h.queue.length

end Happening

/-- The host after some happenings. -/
def onward (h : Host (Connection ρ)) : List Happening → Host (Connection ρ)
  | [] => h
  | x :: xs => onward (x.after h) xs

/-- The events that some happenings put into the queue, each with what put it there. -/
def postings (h : Host (Connection ρ)) : List Happening → List (Happening × Event)
  | [] => []
  | x :: xs => (x.news h).map (x, ·) ++ postings (x.after h) xs

/-- The events that the attempt put there. -/
def tellings (ps : List (Happening × Event)) : List Event := (ps.filter (·.1.isResume)).map Prod.snd

variable {h : Host (Connection ρ)} {xs ys : List Happening}

theorem postings_append : postings h (xs ++ ys) = postings h xs ++ postings (onward h xs) ys := by
  induction xs generalizing h with
  | nil => rfl
  | cons x xs ih => simp only [List.cons_append, postings, ih, onward, List.append_assoc]

theorem tellings_append (ps qs : List (Happening × Event)) :
    tellings (ps ++ qs) = tellings ps ++ tellings qs := by
  simp [tellings]

theorem tellings_news (x : Happening) (events : List Event) :
    tellings (events.map (x, ·)) = if x.isResume then events else [] := by
  cases resumed : x.isResume <;> simp [tellings, List.filter_map, Function.comp_def, resumed]

/-- Every posting comes from one of the happenings, and behind the postings of those before it. -/
theorem exists_of_postings {front back : List (Happening × Event)} {x : Happening} {e : Event}
    (split : postings h xs = front ++ (x, e) :: back) :
    ∃ before later sooner after, xs = before ++ x :: later ∧
      x.news (onward h before) = sooner ++ e :: after ∧
      front = postings h before ++ sooner.map (x, ·) := by
  induction xs generalizing h front with
  | nil => simp [postings] at split
  | cons y ys ih =>
    rw [postings, List.append_eq_append_iff] at split
    -- The posting comes from the happenings after the first, or from the first itself.
    obtain ⟨more, rfl, rest⟩ | ⟨more, news, rest⟩ := split
    · obtain ⟨before, later, sooner, after, rfl, news, rfl⟩ := ih rest
      exact ⟨y :: before, later, sooner, after, rfl, news, by simp [postings]⟩
    · cases more with
      | nil =>
        rw [List.append_nil] at news
        have whole : postings _ ys = [] ++ (x, e) :: back := rest.symm
        obtain ⟨before, later, sooner, after, rfl, news', none⟩ := ih whole
        refine ⟨y :: before, later, sooner, after, rfl, news', ?_⟩
        rw [postings, List.append_assoc, ← none, List.append_nil, news]
      | cons p more =>
        obtain ⟨rfl, -⟩ := List.cons.inj rest
        obtain ⟨sooner, there, news, rfl, here⟩ := List.map_eq_append_iff.1 news
        obtain ⟨e', after, rfl, same, -⟩ := List.map_eq_cons_iff.1 here
        cases same
        exact ⟨[], ys, sooner, after, rfl, news, rfl⟩

theorem mem_postings_iff {x : Happening} {e : Event} : (x, e) ∈ postings h xs ↔
    ∃ before later, xs = before ++ x :: later ∧ e ∈ x.news (onward h before) := by
  constructor
  · intro there
    obtain ⟨front, back, split⟩ := List.append_of_mem there
    obtain ⟨before, later, sooner, after, rfl, news, -⟩ := exists_of_postings split
    exact ⟨before, later, rfl, by simp [news]⟩
  · rintro ⟨before, later, rfl, news⟩
    rw [postings_append, postings]
    exact List.mem_append_right _ (List.mem_append_left _ (List.mem_map_of_mem news))

/-! ### The attempt -/

/-- The host on which an attempt to own a name was begun. -/
def owning (name : Text) (script : BusScript) : Host (Connection ρ) :=
  ((begin script).run { state := { name } }).2

variable {name : Text} {script : BusScript} {told : List Event}

theorem telling_owning (name : Text) (script : BusScript) :
    Telling name script (owning (ρ := ρ) name script).state.story [] := .starting

/-- What a happening posts. -/
structure Posted (name : Text) (script : BusScript) (told : List Event) (x : Happening)
    (h : Host (Connection ρ)) : Prop where
  queue : (x.after h).queue = h.queue ++ x.news h
  telling :
    Telling name script (x.after h).state.story (told ++ if x.isResume then x.news h else [])
  resumed : x = .resume → ((∃ v, .nameAcquired v ∈ x.news h) ↔ h.state.story.IsGranted script)
  beside : x.isResume = false → x.news h = [] ∨ ∃ m, x = .message m
  revoked : ∀ m, x = .message m → acquisitions told = 1 → m.Revokes name →
    x.news h = [loss name .nameRevoked ""]
  ignored : ∀ m, x = .message m → ¬ (acquisitions told = 1 ∧ m.Revokes name) → x.news h = []

theorem news_of_queue {x : Happening} {more : List Event}
    (queue : (x.after h).queue = h.queue ++ more) :
    x.news h = more := by
  unfold Happening.news
  rw [queue, List.drop_left]

theorem posted_of_silent {x : Happening} (other : x.isResume = false) (quiet : ∀ m, x ≠ .message m)
    (queue : (x.after h).queue = h.queue)
    (still : Telling name script (x.after h).state.story told) :
    Posted name script told x h := by
  have news : x.news h = [] := news_of_queue (by rw [queue, List.append_nil])
  refine ⟨by rw [news, queue, List.append_nil], ?_, fun same => ?_, fun _ => .inl news,
    fun m same => ?_,
    fun _ _ _ => news⟩
  · rw [other]
    simpa using still
  · rw [same] at other
    cases other
  · exact absurd same (quiet m)

/-- Whatever happens only adds to the queue, and what the attempt told stays the beginning of a
course. -/
theorem posted (telling : Telling name script h.state.story told) (x : Happening) :
    Posted name script told x h := by
  cases x with
  | resume =>
    obtain ⟨more, tells⟩ := ends_resume_tells telling
    have news : Happening.resume.news h = more := news_of_queue tells.queue
    refine ⟨by rw [news]; exact tells.queue, ?_, fun _ => ?_, nofun, nofun, nofun⟩
    · rw [news]
      exact tells.telling
    · rw [news]
      exact tells.grants
  | message m =>
    obtain ⟨story, revoked, ignored⟩ := ends_deliver_story m telling
    have story : ((Happening.message m).after h).state.story = h.state.story := story
    have added : ((Happening.message m).after h).queue =
        h.queue ++ Happening.news (.message m) h := by
      by_cases revokes : acquisitions told = 1 ∧ m.Revokes name
      · have queue := revoked revokes.1 revokes.2
        rw [news_of_queue (x := .message m) queue]
        exact queue
      · have queue : _ = h.queue ++ [] := (ignored revokes).trans (List.append_nil _).symm
        rw [news_of_queue (x := .message m) queue]
        exact queue
    refine ⟨added, ?_, nofun, fun _ => .inr ⟨m, rfl⟩, ?_, ?_⟩
    · rw [story]
      simpa [Happening.isResume] using telling
    · rintro _ ⟨⟩ bus revokes
      exact news_of_queue (revoked bus revokes)
    · rintro _ ⟨⟩ other
      exact news_of_queue ((ignored other).trans (List.append_nil _).symm)
  | hangUp fault =>
    have silent : (Connection.hangUp fault).Keeps (Silent h) := silent_hangUp fault
    obtain ⟨story, queue⟩ := silent h ⟨rfl, rfl⟩
    exact posted_of_silent rfl nofun queue (by rw [← story] at telling; exact telling)
  | cancel =>
    obtain ⟨telling', queue⟩ := ends_cancel_telling telling
    exact posted_of_silent rfl nofun queue telling'
  | release =>
    have silent : Connection.release.Keeps (Silent h) := silent_release
    obtain ⟨story, queue⟩ := silent h ⟨rfl, rfl⟩
    exact posted_of_silent rfl nofun queue (by rw [← story] at telling; exact telling)

theorem telling_onward (telling : Telling name script h.state.story told) (xs : List Happening) :
    Telling name script (onward h xs).state.story (told ++ tellings (postings h xs)) := by
  induction xs generalizing h told with
  | nil => simpa [onward, postings, tellings] using telling
  | cons x xs ih =>
    have told' := ih (posted telling x).telling
    rw [onward, postings, tellings_append, tellings_news, ← List.append_assoc]
    exact told'

theorem queue_onward (telling : Telling name script h.state.story told) (xs : List Happening) :
    (onward h xs).queue = h.queue ++ (postings h xs).map Prod.snd := by
  induction xs generalizing h told with
  | nil => exact (List.append_nil _).symm
  | cons x xs ih =>
    have first := posted telling x
    rw [onward, ih first.telling, first.queue, postings, List.map_append, List.append_assoc]
    simp [Function.comp_def]

theorem acquisitions_eq_one_iff (telling : Telling name script h.state.story told) :
    acquisitions told = 1 ↔ .busAcquired ∈ told := by
  have at_most := telling.acquisitions_le
  have some : 0 < acquisitions told ↔ .busAcquired ∈ told := by
    unfold acquisitions
    rw [List.countP_pos_iff]
    constructor
    · rintro ⟨e, there, is⟩
      cases e <;> cases is
      exact there
    · exact fun there => ⟨_, there, rfl⟩
  rw [← some]
  omega

/-- The reports of an attempt to own a name, whatever happens. -/
structure IsReported (start : Host (Connection ρ)) (name : Text) (script : BusScript)
    (happenings : List Happening) : Prop where
  /-- Nothing else gets into the queue, and nothing is taken out. -/
  queue : (onward start happenings).queue = (postings start happenings).map Prod.snd
  /-- What the attempt posts is the beginning of a course. -/
  course : ∃ course, IsCourse name course ∧ tellings (postings start happenings) <+: course
  /-- The acquisition of the name is posted exactly if the attempt went on when its request had been
  answered with the ownership. -/
  acquired : (∃ v, .nameAcquired v ∈ tellings (postings start happenings)) ↔
    ∃ before later, happenings = before ++ .resume :: later ∧
      (onward start before).state.story.IsGranted script
  /-- An attempt that ended by itself posted a loss at last. -/
  ended : (onward start happenings).state.attempts = [.ended] →
    ∃ loss, (tellings (postings start happenings)).getLast? = some (.nameLost loss)
  /-- What the attempt did not post comes from a message, is a loss and comes after the acquisition
  of the bus. -/
  others : ∀ front x e back, postings start happenings = front ++ (x, e) :: back → x ≠ .resume →
    (∃ m, x = .message m) ∧ e = loss name .nameRevoked "" ∧ .busAcquired ∈ tellings front
  /-- A message that revokes the name posts one loss once the bus was acquired. -/
  revoked : ∀ before m later, happenings = before ++ .message m :: later →
    .busAcquired ∈ tellings (postings start before) → m.Revokes name →
      Happening.news (.message m) (onward start before) = [loss name .nameRevoked ""]
  /-- Any other message posts nothing. -/
  ignored : ∀ before m later, happenings = before ++ .message m :: later →
    ¬ (.busAcquired ∈ tellings (postings start before) ∧ m.Revokes name) →
      Happening.news (.message m) (onward start before) = []

/-- What the attempt posted is among the postings of its steps. -/
theorem mem_tellings_iff {e : Event} : e ∈ tellings (postings h xs) ↔
    ∃ before later, xs = before ++ .resume :: later ∧
      e ∈ Happening.resume.news (onward h before) := by
  rw [← mem_postings_iff]
  unfold tellings
  rw [List.mem_map]
  constructor
  · rintro ⟨⟨x, _⟩, there, rfl⟩
    obtain ⟨there, resumed⟩ := List.mem_filter.1 there
    cases x <;> cases resumed
    exact there
  · exact fun there => ⟨_, List.mem_filter.2 ⟨there, rfl⟩, rfl⟩

theorem exists_loss_of_ended {s : Story} (telling : Telling name script s told)
    (ended : s.attempts = [.ended]) : ∃ loss, told.getLast? = some (.nameLost loss) := by
  cases telling with
  | ended course heard => cases course <;> exact ⟨_, rfl⟩
  | _ => cases ended

/-- Whatever the bus does and whatever happens in which order, the ownership of the name is reported
as it should be. -/
theorem isReported (name : Text) (script : BusScript) (happenings : List Happening) :
    IsReported (owning (ρ := ρ) name script) name script happenings := by
  have begun := telling_owning (ρ := ρ) name script
  have empty : (owning (ρ := ρ) name script).queue = [] := rfl
  generalize owning (ρ := ρ) name script = start at begun empty
  have told (xs : List Happening) :
      Telling name script (onward start xs).state.story (tellings (postings start xs)) :=
    telling_onward begun xs
  have acquired (xs : List Happening) := acquisitions_eq_one_iff (told xs)
  refine ⟨?_, (told happenings).exists_course, ?_,
    exists_loss_of_ended (told happenings), ?_, ?_, ?_⟩
  · rw [queue_onward begun, empty, List.nil_append]
  · constructor
    · rintro ⟨v, there⟩
      obtain ⟨before, later, split, news⟩ := mem_tellings_iff.1 there
      exact ⟨before, later, split, ((posted (told before) .resume).resumed rfl).1 ⟨v, news⟩⟩
    · rintro ⟨before, later, split, granted⟩
      obtain ⟨v, news⟩ := ((posted (told before) .resume).resumed rfl).2 granted
      exact ⟨v, mem_tellings_iff.2 ⟨before, later, split, news⟩⟩
  · intro front x e back split other
    obtain ⟨before, later, sooner, after, rfl, news, rfl⟩ := exists_of_postings split
    have step := posted (told before) x
    obtain none | ⟨m, rfl⟩ := step.beside (by cases x <;> first | rfl | exact absurd rfl other)
    · simp [none] at news
    · by_cases revokes : acquisitions (tellings (postings start before)) = 1 ∧ m.Revokes name
      · rw [step.revoked m rfl revokes.1 revokes.2, eq_comm, List.append_eq_singleton_iff] at news
        obtain ⟨rfl, only⟩ | ⟨-, none⟩ := news
        · obtain ⟨rfl, -⟩ := List.cons.inj only
          refine ⟨⟨m, rfl⟩, rfl, ?_⟩
          rw [List.map_nil, List.append_nil]
          exact (acquired before).1 revokes.1
        · cases none
      · simp [step.ignored m rfl revokes] at news
  · intro before m later _ bus revokes
    exact (posted (told before) (.message m)).revoked m rfl ((acquired before).2 bus) revokes
  · intro before m later _ other
    refine (posted (told before) (.message m)).ignored m rfl fun revokes => other ?_
    exact ⟨(acquired before).1 revokes.1, revokes.2⟩

end Connection

end GpioBroker
