import WikiQuery.Proofs.Acceptance
import WikiQuery.Proofs.Windows

/- Fetching page after page. Over a wiki of fixed rows it ends with the rows of the query's window,
   whatever the size of the pages, and sends the pages up to the first that comes back short. -/
set_option autoImplicit false

namespace WikiQuery

def Query.isShort (rows : List Row) (page : Query) : Bool :=
  (page.window rows).length < (page.limit.getD 0).toNat

def untilShort (rows : List Row) : List Query → List Query
  | [] => []
  | page :: rest => if page.isShort rows then [page] else page :: untilShort rows rest

namespace Query

variable {c : Catalog} {provider : Provider} {rows : List Row} {q : Query}

theorem fetch_answered {r : Request} (built : Request.ofQuery c provider q = .ok r)
    (history : List Request) :
    (q.fetch c (.ofRows provider rows none)).outcome history =
      (.ok (q.window rows), history ++ [r]) := by
  have builds : Request.ofQuery c (Wiki.ofRows provider rows none).provider q = .ok r := built
  rw [← Wiki.window_of_query built rows, fetch, Steps.outcome_bind, builds,
    Steps.outcome_of_except]
  rfl

theorem fetch_refused {e : QueryError} (refused : Request.ofQuery c provider q = .error e)
    (history : List Request) :
    (q.fetch c (.ofRows provider rows none)).outcome history = (.error e, history) := by
  have refuses : Request.ofQuery c (Wiki.ofRows provider rows none).provider q = .error e := refused
  rw [fetch, Steps.outcome_bind, refuses, Steps.outcome_of_except]

section Steps

variable {w : Wiki} {p p' : Pages} {page : Query} {fuel : Nat} {history later : List Request}

theorem fetch_pages_ended (ended : p.next? = none) :
    (fetchPages c w (fuel + 1) p).outcome history = (.ok (some []), history) := by
  rw [fetchPages, ended]
  rfl

theorem fetch_pages_failed {e : QueryError} (cut : p.next? = some (page, p'))
    (failed : (page.fetch c w).outcome history = (.error e, later)) :
    (fetchPages c w (fuel + 1) p).outcome history = (.error e, later) := by
  rw [fetchPages, cut]
  dsimp only
  rw [Steps.outcome_bind, failed]

theorem fetch_pages_short {batch : List Row} (cut : p.next? = some (page, p'))
    (answered : (page.fetch c w).outcome history = (.ok batch, later))
    (short : batch.length < (page.limit.getD p'.size).toNat) :
    (fetchPages c w (fuel + 1) p).outcome history = (.ok (some batch), later) := by
  rw [fetchPages, cut]
  dsimp only
  rw [Steps.outcome_bind, answered]
  dsimp only
  rw [if_pos short, Steps.outcome_pure]

theorem fetch_pages_full {batch rest : List Row} {last : List Request}
    (cut : p.next? = some (page, p'))
    (answered : (page.fetch c w).outcome history = (.ok batch, later))
    (full : ¬ batch.length < (page.limit.getD p'.size).toNat)
    (followed : (fetchPages c w fuel p').outcome later = (.ok (some rest), last)) :
    (fetchPages c w (fuel + 1) p).outcome history = (.ok (some (batch ++ rest)), last) := by
  rw [fetchPages, cut]
  dsimp only
  rw [Steps.outcome_bind, answered]
  dsimp only
  rw [if_neg full, Steps.outcome_bind, followed]
  rfl

end Steps

end Query

namespace Pages

variable {c : Catalog} {root : Entity} {provider : Provider} {rows : List Row} {p : Pages}

structure Ready (c : Catalog) (root : Entity) (provider : Provider) (p : Pages) : Prop where
  reached : Reachable c root p.query
  sized : 0 < p.size.toNat
  fits : ∀ size ∈ p.nextSize?, size.toNat ≤ provider.maxLimit.toNat

theorem page_sound (reached : Reachable c root p.query) (size : UInt64) :
    (p.page size).Sound c root := by
  have taken : (Operator.take size).apply c p.query = .ok (p.query.take size) := rfl
  have skipped : (Operator.skip p.next).apply c (p.query.take size) = .ok (p.page size) := rfl
  exact ((reached.step taken).step skipped).sound

theorem Ready.built (ready : p.Ready c root provider) {size : UInt64}
    (known : p.nextSize? = some size) : ∃ r, Request.ofQuery c provider (p.page size) = .ok r := by
  apply Request.of_query_built (page_sound ready.reached size)
  have fits := ready.fits size known
  exact if_neg (by rw [UInt64.lt_iff_toNat_lt]; omega)

theorem Ready.after (ready : p.Ready c root provider) {size : UInt64}
    (known : p.nextSize? = some size) : (p.after size).Ready c root provider where
  reached := ready.reached
  sized := ready.sized
  fits := fun _ known' => Nat.le_trans (next_size?_antitone known known') (ready.fits size known)

theorem take_ended (ended : p.next? = none) (n : Nat) : (p.take n).1 = [] := by
  cases n with
  | zero => rfl
  | succ n => rw [take, ended]

theorem take_succ {page : Query} {p' : Pages} (cut : p.next? = some (page, p')) (n : Nat) :
    (p.take (n + 1)).1 = page :: (p'.take n).1 := by
  rw [take, cut]

structure Fetched (c : Catalog) (provider : Provider) (rows : List Row) (p : Pages) (enough : Nat)
    (sent : List Query) (requests : List Request) : Prop where
  upToShort : ∀ fuel, enough ≤ fuel → untilShort rows (p.take fuel).1 = sent
  built : sent.mapM (Request.ofQuery c provider) = .ok requests
  collected : ∀ fuel, enough ≤ fuel → ∀ history,
    (Query.fetchPages c (.ofRows provider rows none) fuel p).outcome history =
      (.ok (some (p.window rows)), history ++ requests)

theorem fetched_ended {enough : Nat} (none : p.nextSize? = none) :
    p.Fetched c provider rows (enough + 1) [] [] where
  upToShort := fun fuel _ => by rw [take_ended (next?_ended none), untilShort]
  built := rfl
  collected := fun
    | fuel + 1, _, history => by
        rw [Query.fetch_pages_ended (next?_ended none), window_ended none, List.append_nil]

section Cut

variable {size : UInt64} {r : Request} {enough : Nat}

theorem fetched_short (known : p.nextSize? = some size) (sized : 0 < p.size.toNat)
    (built : Request.ofQuery c provider (p.page size) = .ok r)
    (short : ((p.page size).window rows).length < size.toNat) :
    p.Fetched c provider rows (enough + 1) [p.page size] [r] where
  upToShort := fun
    | fuel + 1, _ => by
        have isShort : (p.page size).isShort rows = true := decide_eq_true short
        rw [take_succ (next?_cut known), untilShort, if_pos isShort]
  built := by
    rw [List.mapM_cons, built]
    rfl
  collected := fun
    | fuel + 1, _, history => by
        rw [Query.fetch_pages_short (next?_cut known) (Query.fetch_answered built history) short,
          window_short known sized short]

theorem fetched_full {sent : List Query} {requests : List Request}
    (known : p.nextSize? = some size) (sized : 0 < p.size.toNat)
    (finite : rows.length < UInt64.size)
    (built : Request.ofQuery c provider (p.page size) = .ok r)
    (full : ¬ ((p.page size).window rows).length < size.toNat)
    (rest : (p.after size).Fetched c provider rows enough sent requests) :
    p.Fetched c provider rows (enough + 1) (p.page size :: sent) (r :: requests) where
  upToShort := fun
    | fuel + 1, more => by
        have isFull : ¬ (p.page size).isShort rows = true := mt of_decide_eq_true full
        rw [take_succ (next?_cut known), untilShort, if_neg isFull,
          rest.upToShort fuel (Nat.le_of_succ_le_succ more)]
  built := by
    rw [List.mapM_cons, built, rest.built]
    rfl
  collected := fun
    | fuel + 1, more, history => by
        have followed := rest.collected fuel (Nat.le_of_succ_le_succ more) (history ++ [r])
        rw [Query.fetch_pages_full (next?_cut known) (Query.fetch_answered built history) full
          followed, (window_full known sized finite full).2.2, List.append_assoc,
          List.singleton_append]

end Cut

-- Page after page: a full page leaves fewer rows behind it, so that the count of pages needed is
-- bounded by the rows that are left.
theorem Ready.fetched (finite : rows.length < UInt64.size) :
    ∀ (enough : Nat) {p : Pages}, p.Ready c root provider → rows.length - p.next.toNat < enough →
      ∃ sent requests, p.Fetched c provider rows enough sent requests
  | enough + 1, p, ready, bounded => by
      cases known : p.nextSize? with
      | none => exact ⟨_, _, fetched_ended known⟩
      | some size =>
          obtain ⟨r, built⟩ := ready.built known
          by_cases short : ((p.page size).window rows).length < size.toNat
          · exact ⟨_, _, fetched_short known ready.sized built short⟩
          · obtain ⟨reached, next, _⟩ := window_full known ready.sized finite short
            have positive := (next_size?_bounds known ready.sized).1
            obtain ⟨sent, requests, rest⟩ :=
              Ready.fetched finite enough (ready.after known) (by omega)
            exact ⟨_, _, fetched_full known ready.sized finite built short rest⟩

end Pages

namespace Query

variable {c : Catalog} {root : Entity} {provider : Provider} {rows : List Row} {q : Query}

theorem pages_sized (q : Query) (size : UInt64) : 0 < (q.pages size).size.toNat := by
  change 0 < (max size 1).toNat
  rw [UInt64.toNat_max]
  exact Nat.lt_of_lt_of_le Nat.one_pos (Nat.le_max_right _ _)

theorem pages_ready (reached : Reachable c root q) {size : UInt64}
    (within : ¬ provider.maxLimit < q.firstSize size) :
    (q.pages size).Ready c root provider where
  reached := reached
  sized := pages_sized q size
  fits := by
    rw [pages_first]
    split
    · simp
    · rintro _ ⟨⟩
      exact Nat.not_lt.mp fun less => within (UInt64.lt_iff_toNat_lt.mpr less)

/-- How a query is fetched from a wiki of fixed rows by pages of a size, once the count exceeds the
number of rows. -/
structure FetchedByPages (c : Catalog) (provider : Provider) (rows : List Row) (size : UInt64)
    (q : Query) : Prop where
  empty : q.extent = some 0 → ∀ fuel > rows.length, ∀ history,
    (q.fetchAll c (.ofRows provider rows none) fuel size).outcome history =
      (.ok (some []), history)
  refused : q.extent ≠ some 0 → provider.maxLimit < q.firstSize size →
    ∀ fuel > rows.length, ∀ history,
      (q.fetchAll c (.ofRows provider rows none) fuel size).outcome history =
        (.error (.limitExceeded (q.firstSize size) provider.maxLimit), history)
  fetched : q.extent ≠ some 0 → ¬ provider.maxLimit < q.firstSize size →
    ∃ sent requests,
      (∀ fuel > rows.length, untilShort rows ((q.pages size).take fuel).1 = sent) ∧
      sent.mapM (Request.ofQuery c provider) = .ok requests ∧
      ∀ fuel > rows.length, ∀ history,
        (q.fetchAll c (.ofRows provider rows none) fuel size).outcome history =
          (.ok (some (q.window rows)), history ++ requests)

end Query

/-- Fetching by pages of any size gives the rows of the window, in order, and sends the pages up to
the first that comes back short; a first page above the provider's limit is refused before any
request. -/
theorem fetch_all_is_window {c : Catalog} {root : Entity} {q : Query} (reached : Reachable c root q)
    (provider : Provider) {rows : List Row} (finite : rows.length < UInt64.size) (size : UInt64) :
    q.FetchedByPages c provider rows size where
  empty := by
    rintro isEmpty (_ | fuel) more history
    · cases more
    · have none : (q.pages size).nextSize? = none := by rw [Query.pages_first, if_pos isEmpty]
      exact Query.fetch_pages_ended (Pages.next?_ended none)
  refused := by
    rintro nonempty exceeds (_ | fuel) more history
    · cases more
    · have known : (q.pages size).nextSize? = some (q.firstSize size) := by
        rw [Query.pages_first, if_neg nonempty]
      have checked : Request.checkWindow provider ((q.pages size).page (q.firstSize size)) =
          .error (.limitExceeded (q.firstSize size) provider.maxLimit) := if_pos exceeds
      exact Query.fetch_pages_failed (Pages.next?_cut known)
        (Query.fetch_refused (Request.of_query_refused checked) history)
  fetched := by
    intro _ within
    obtain ⟨sent, requests, fetched⟩ :=
      (Query.pages_ready reached within).fetched finite (rows.length + 1) (by omega)
    refine ⟨sent, requests, fetched.upToShort, fetched.built, ?_⟩
    intro fuel more history
    rw [Query.fetchAll, fetched.collected fuel more history, Query.pages_window finite]

theorem three_authors_fetched :
    Reachable Sample.catalog Sample.page ((Sample.byAuthorJoined.skip 1).take 3) ∧
      ((Sample.byAuthorJoined.skip 1).take 3).FetchedByPages Sample.catalog ⟨2, .qualified⟩
        (List.replicate 5 .empty) 2 ∧
      ((Sample.byAuthorJoined.skip 1).take 3).extent = some 3 ∧
      ¬ (2 : UInt64) < ((Sample.byAuthorJoined.skip 1).take 3).firstSize 2 := by
  have skipped : (Operator.skip 1).apply Sample.catalog Sample.byAuthorJoined =
      .ok (Sample.byAuthorJoined.skip 1) := rfl
  have taken : (Operator.take 3).apply Sample.catalog (Sample.byAuthorJoined.skip 1) =
      .ok ((Sample.byAuthorJoined.skip 1).take 3) := rfl
  have reached := (Sample.by_author_joined_reachable.step skipped).step taken
  exact ⟨reached, fetch_all_is_window reached _ (by decide) 2, by decide, by decide⟩

def Sample.lastPages : Query := (start.skip lastPosition).take 5

/-- A window that starts at the last position has no room for its limit: nothing is asked for, and a
limit above the provider's is not refused. -/
theorem window_at_last_position_is_empty :
    Reachable Sample.catalog Sample.page Sample.lastPages ∧
      Sample.lastPages.limit = some 5 ∧ (3 : UInt64) < min (max 10 1) 5 ∧
      ∀ fuel > 0, ∀ history,
        (Sample.lastPages.fetchAll Sample.catalog (.ofRows ⟨3, .qualified⟩ [] none) fuel 10).outcome
            history = (.ok (some []), history) ∧
        (Sample.lastPages.fetchAll Sample.catalog (.ofRows ⟨3, .qualified⟩ [] none) fuel 10).outcome
            history ≠ (.error (.limitExceeded 5 3), history) := by
  have started : Query.start Sample.catalog Sample.page = .ok Sample.start := rfl
  have skipped : (Operator.skip lastPosition).apply Sample.catalog Sample.start =
      .ok (Sample.start.skip lastPosition) := rfl
  have taken : (Operator.take 5).apply Sample.catalog (Sample.start.skip lastPosition) =
      .ok Sample.lastPages := rfl
  refine ⟨((Reachable.start started).step skipped).step taken, rfl, by decide, ?_⟩
  rintro (_ | fuel) more history
  · cases more
  · have ended : (Sample.lastPages.pages 10).nextSize? = none := by decide
    rw [Query.fetchAll, Query.fetch_pages_ended (Pages.next?_ended ended)]
    simp

end WikiQuery
