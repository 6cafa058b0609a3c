import SharedBytes.Proofs.Session.Moves

/-!
# Appends from many channels

Any number of channels append to one buffer, in any order, and seek and read in between. Each move
that stores something leaves a landing: the bytes, the number that the call reports, and where the
cursor of its channel stands right after. The main statement is that the content is what it was at
first and then the landings in their order, each of which lies right before its own cursor and stays
there.
-/

namespace SharedBytes

structure Landing where
  bytes : Bytes
  written : Nat
  stop : Nat
deriving DecidableEq, Repr

structure Landing.Occupies (landing : Landing) (content : Bytes) : Prop where
  whole : landing.written = landing.bytes.length
  begins : landing.written ≤ landing.stop
  ends : landing.stop ≤ content.length
  same : (content.drop (landing.stop - landing.written)).take landing.written = landing.bytes

/-- The first landing begins at `start`, each other where the one before it stops, and the last one
stops at `stop`. -/
def Tiles (start : Nat) : List Landing → Nat → Prop
  | [], stop => start = stop
  | landing :: landings, stop =>
    landing.stop = start + landing.written ∧ Tiles landing.stop landings stop

theorem Tiles.start_le {start stop : Nat} {landings : List Landing}
    (tiles : Tiles start landings stop) {landing : Landing} (member : landing ∈ landings) :
    start ≤ landing.stop - landing.written := by
  induction landings generalizing start with
  | nil => cases member
  | cons first rest induction =>
    obtain ⟨stops, tail⟩ := tiles
    rcases List.mem_cons.mp member with rfl | later
    · omega
    · have after := induction tail later
      omega

theorem Tiles.apart {start stop : Nat} {landings : List Landing}
    (tiles : Tiles start landings stop) :
    landings.Pairwise fun earlier later => earlier.stop ≤ later.stop - later.written := by
  induction landings generalizing start with
  | nil => exact .nil
  | cons first rest induction =>
    obtain ⟨_, tail⟩ := tiles
    exact .cons (fun later member => tail.start_le member) (induction tail)

theorem Tiles.append {start middle stop : Nat} {first second : List Landing}
    (left : Tiles start first middle) (right : Tiles middle second stop) :
    Tiles start (first ++ second) stop := by
  induction first generalizing start with
  | nil =>
    cases left
    exact right
  | cons landing rest induction => exact ⟨left.1, induction left.2⟩

theorem Tiles.occupies {content : Bytes} {stop : Nat} {landings : List Landing}
    (tiles : Tiles content.length landings stop)
    (whole : ∀ landing ∈ landings, landing.written = landing.bytes.length) {landing : Landing}
    (member : landing ∈ landings) :
    landing.Occupies (content ++ (landings.map Landing.bytes).flatten) := by
  -- What comes before a landing is as long as its start, so each one becomes the first in its turn.
  induction landings generalizing content with
  | nil => cases member
  | cons first rest induction =>
    obtain ⟨stops, tail⟩ := tiles
    obtain ⟨firstWhole, restWhole⟩ := List.forall_mem_cons.mp whole
    rcases List.mem_cons.mp member with rfl | later
    · have start : landing.stop - landing.written = content.length := by omega
      constructor
      · exact firstWhole
      · omega
      · simp only [List.map_cons, List.flatten_cons, List.length_append]
        omega
      · rw [start, List.drop_left, firstWhole, List.map_cons, List.flatten_cons, List.take_left]
    · have length : first.stop = (content ++ first.bytes).length := by
        rw [List.length_append, stops, firstWhole]
      rw [List.map_cons, List.flatten_cons, ← List.append_assoc]
      exact induction (length ▸ tail) restWhole later

namespace Session

def landing? (session : Session) (move : Move) : Option Landing :=
  let (report, next) := session.play move
  match move.deed.payload?, report.outcome, next.channel? move.id with
  | some bytes, .ok (.number written), some channel =>
    some { bytes, written, stop := channel.position }
  | _, _, _ => none

def after (session : Session) (moves : List Move) : Session :=
  moves.foldl (fun session move => (session.play move).2) session

def landings (session : Session) : List Move → List Landing
  | [] => []
  | move :: moves => (session.landing? move).toList ++ (session.play move).2.landings moves

def TransfersSucceed (session : Session) (moves : List Move) : Prop :=
  ∀ early move late, moves = early ++ move :: late → move.deed.isTransfer = true →
    ∃ value, ((session.after early).play move).1.outcome = .ok value

variable {session : Session} {id index : Nat} {channel : Channel}

theorem landing_stored {move : Move} {bytes : Bytes} {written : Nat}
    (payload : move.deed.payload? = some bytes)
    (answered : (session.play move).1.outcome = .ok (.number written))
    (stands : (session.play move).2.channel? move.id = some channel) :
    session.landing? move = some { bytes, written, stop := channel.position } := by
  simp only [landing?, payload, answered, stands]

theorem landing_none {move : Move} (nothing : move.deed.payload? = none ∨
    ∀ value, (session.play move).1.outcome ≠ .ok value) : session.landing? move = none := by
  rcases nothing with idle | failed
  · simp only [landing?, idle]
  · cases answered : (session.play move).1.outcome with
    | ok value => exact absurd answered (failed value)
    | error _ | aborted =>
      simp only [landing?, answered]
      cases move.deed.payload? <;> rfl

section

variable {move : Move} (bears : session.Bears move.id channel index)
  (effect : session.Effect move.id index channel move.deed.payload? (session.play move).1.outcome
    (session.play move).2)

include bears effect

/-- What a move adds to the content is its landing, if it has one. -/
theorem landing_effect (there : index < session.buffers.length) :
    let next := (session.play move).2
    let landed := (session.landing? move).toList
    (next.bufferAt index).bytes =
        (session.bufferAt index).bytes ++ (landed.map Landing.bytes).flatten ∧
      Tiles (session.bufferAt index).size landed (next.bufferAt index).size ∧
      ∀ landing ∈ landed, landing.written = landing.bytes.length := by
  have unchanged {later : Channel} (nothing : session.landing? move = none)
      (turned : session.Turned move.id later session.buffers (session.play move).2) :
      ((session.play move).2.bufferAt index = session.bufferAt index) ∧
        (session.landing? move).toList = [] := by
    rw [nothing, bufferAt, turned.buffers_eq]
    exact ⟨rfl, rfl⟩
  cases effect with
  | @stored bytes payload answered turned =>
    have stands := (turned.bears bears).channel_eq
    have grew := getD_grown there bytes
    rw [← turned.buffers_eq, ← bufferAt] at grew
    simp [landing_stored payload answered stands, grew, Tiles, Buffer.size]
  | failed payload failed turned =>
    obtain ⟨same, nothing⟩ := unchanged (landing_none (.inr failed)) turned
    simp [same, nothing, Tiles]
  | idle payload cursor turned =>
    obtain ⟨same, nothing⟩ := unchanged (landing_none (.inl payload)) turned
    simp [same, nothing, Tiles]

theorem success_effect {bytes : Bytes} {value : Value} (payload : move.deed.payload? = some bytes)
    (answered : (session.play move).1.outcome = .ok value) :
    ∃ later, (session.play move).2.channel? move.id = some later ∧ value = .number bytes.length ∧
      session.landing? move = some { bytes, written := bytes.length, stop := later.position } := by
  cases effect with
  | stored stored answer turned =>
    cases payload.symm.trans stored
    have stands := (turned.bears bears).channel_eq
    rw [answered] at answer
    cases answer
    exact ⟨_, stands, rfl, landing_stored payload answered stands⟩
  | failed _ failed _ => exact absurd answered (failed value)
  | idle idle _ _ => cases payload.symm.trans idle

theorem failure_effect (payload : move.deed.payload? ≠ none)
    (failed : ∀ value, (session.play move).1.outcome ≠ .ok value) :
    (session.play move).2.bufferAt index = session.bufferAt index ∧
      (session.play move).2.channel? move.id = session.channel? move.id := by
  cases effect with
  | stored _ answered _ => exact absurd answered (failed _)
  | failed _ _ turned =>
    rw [bufferAt, turned.buffers_eq, (turned.bears bears).channel_eq, bears.channel_eq]
    exact ⟨rfl, rfl⟩
  | idle idle _ _ => exact absurd idle payload

end

theorem landings_append (session : Session) (first second : List Move) :
    session.landings (first ++ second) =
      session.landings first ++ (session.after first).landings second := by
  induction first generalizing session with
  | nil => rfl
  | cons move moves induction =>
    simp only [List.cons_append, landings, induction, List.append_assoc]
    rfl

theorem TransfersSucceed.take {first second : List Move}
    (succeed : session.TransfersSucceed (first ++ second)) : session.TransfersSucceed first := by
  rintro early move late rfl
  exact succeed early move (late ++ second) (by simp)

theorem transfersSucceed_cons {move : Move} {moves : List Move} :
    session.TransfersSucceed (move :: moves) ↔
      (move.deed.isTransfer = true → ∃ value, (session.play move).1.outcome = .ok value) ∧
        (session.play move).2.TransfersSucceed moves := by
  constructor
  · intro succeed
    refine ⟨succeed [] move moves rfl, ?_⟩
    rintro early next late rfl
    exact succeed (move :: early) next late rfl
  · rintro ⟨first, others⟩ (_ | ⟨_, early⟩) next late whole
    · cases whole
      exact first
    · cases whole
      exact others early next late rfl

structure Landed (session : Session) (index : Nat) (moves : List Move) : Prop where
  there : index < (session.after moves).buffers.length
  appends : ∀ id, session.Appends id index → (session.after moves).Appends id index
  content : ((session.after moves).bufferAt index).bytes =
    (session.bufferAt index).bytes ++ ((session.landings moves).map Landing.bytes).flatten
  tiles : Tiles (session.bufferAt index).size (session.landings moves)
    ((session.after moves).bufferAt index).size
  whole : ∀ landing ∈ session.landings moves, landing.written = landing.bytes.length

theorem run_landed {moves : List Move} (there : index < session.buffers.length)
    (appends : ∀ move ∈ moves, session.Appends move.id index)
    (succeed : session.TransfersSucceed moves) : session.Landed index moves := by
  -- The moves after the first one are a run from the session that it leaves, where the same
  -- channels still append to the same buffer.
  induction moves generalizing session with
  | nil =>
    exact
      { there
        appends := fun _ appends => appends
        content := (List.append_nil _).symm
        tiles := rfl
        whole := List.forall_mem_nil _ }
  | cons move moves induction =>
    obtain ⟨first, others⟩ := List.forall_mem_cons.mp appends
    obtain ⟨channel, bears, appending⟩ := first
    obtain ⟨succeeds, later⟩ := transfersSucceed_cons.mp succeed
    have effect := play_effect bears appending there succeeds
    obtain ⟨content, tiles, whole⟩ := landing_effect bears effect there
    have rest : (session.play move).2.Landed index moves :=
      induction (effect.there there)
        (fun next member => effect.appends bears appending (others next member)) later
    constructor
    · exact rest.there
    · intro id before
      exact rest.appends id (effect.appends bears appending before)
    · refine rest.content.trans ?_
      rw [content, landings, List.map_append, List.flatten_append, List.append_assoc]
    · exact tiles.append rest.tiles
    · intro landing member
      rcases List.mem_append.mp member with own | later
      · exact whole landing own
      · exact rest.whole landing later

theorem Landed.occupied {moves : List Move} (landed : session.Landed index moves)
    {landing : Landing} (member : landing ∈ session.landings moves) :
    landing.Occupies ((session.after moves).bufferAt index).bytes := by
  rw [landed.content]
  exact Tiles.occupies landed.tiles landed.whole member

structure Tiled (session : Session) (index : Nat) (moves : List Move) : Prop where
  content : ((session.after moves).bufferAt index).bytes =
    (session.bufferAt index).bytes ++ ((session.landings moves).map Landing.bytes).flatten
  tiles : Tiles (session.bufferAt index).bytes.length (session.landings moves)
    ((session.after moves).bufferAt index).bytes.length
  apart : (session.landings moves).Pairwise fun earlier later =>
    earlier.stop ≤ later.stop - later.written
  /-- Each landing is in place right after its call and at every later time. -/
  occupied : ∀ early late, early <+: late → late <+: moves →
    ∀ landing ∈ session.landings early,
      landing.Occupies ((session.after late).bufferAt index).bytes
  /-- Each successful call that stores something leaves a landing, which stops at the cursor. -/
  lands : ∀ early move late bytes value, moves = early ++ move :: late →
    move.deed.payload? = some bytes → ((session.after early).play move).1.outcome = .ok value →
    ∃ channel, ((session.after early).play move).2.channel? move.id = some channel ∧
      value = .number bytes.length ∧ (session.after early).landing? move =
        some { bytes, written := bytes.length, stop := channel.position }
  /-- A call that should store something and fails changes neither the buffer nor its channel. -/
  fails : ∀ early move late, moves = early ++ move :: late → move.deed.payload? ≠ none →
    (∀ value, ((session.after early).play move).1.outcome ≠ .ok value) →
    ((session.after early).play move).2.bufferAt index = (session.after early).bufferAt index ∧
      ((session.after early).play move).2.channel? move.id =
        (session.after early).channel? move.id

theorem appends_tile {moves : List Move} (there : index < session.buffers.length)
    (appends : ∀ move ∈ moves, session.Appends move.id index)
    (succeed : session.TransfersSucceed moves) : session.Tiled index moves := by
  have landed {first second : List Move} (whole : moves = first ++ second) :
      session.Landed index first := by
    subst whole
    apply run_landed there _ succeed.take
    intro move member
    exact appends move (List.mem_append_left second member)
  have effects {early late : List Move} {move : Move} (whole : moves = early ++ move :: late) :
      ∃ channel, (session.after early).Bears move.id channel index ∧
        (session.after early).Effect move.id index channel move.deed.payload?
          ((session.after early).play move).1.outcome ((session.after early).play move).2 := by
    have before := landed whole
    have member : move ∈ moves := whole ▸ List.mem_append_right early List.mem_cons_self
    obtain ⟨channel, bears, appending⟩ := before.appends move.id (appends move member)
    exact ⟨channel, bears, play_effect bears appending before.there (succeed early move late whole)⟩
  have all := landed (List.append_nil moves).symm
  constructor
  · exact all.content
  · exact all.tiles
  · exact all.tiles.apart
  · rintro early late ⟨more, rfl⟩ ⟨rest, whole⟩ landing member
    apply (landed whole.symm).occupied
    rw [landings_append]
    exact List.mem_append_left _ member
  · intro early move late bytes value whole payload answered
    obtain ⟨channel, bears, effect⟩ := effects whole
    exact success_effect bears effect payload answered
  · intro early move late whole payload failed
    obtain ⟨channel, bears, effect⟩ := effects whole
    exact failure_effect bears effect payload failed

def duet : Session :=
  let slot : Slot :=
    { channel := .opened { read := true, append := true }, handle := 0, buffer := 0 }
  { buffers := [{ bytes := [9], limit := some 6, holders := 3 }]
    handles := [some 0]
    slots := [some slot, some slot] }

/-- The second channel appends from a stale cursor, and the first one once more than fits. -/
def duetMoves : List Move :=
  [⟨.standard, 0, .write [[1], [2]]⟩, ⟨.standard, 1, .setPosition 0⟩,
    ⟨.standard, 1, .writeAt [3] 0⟩, ⟨.standard, 0, .write [[4, 5, 6]]⟩,
    ⟨.standard, 0, .copyIn [7, 8, 9] 0 2⟩]

theorem duet_appends_tile :
    duet.landings duetMoves = [⟨[1, 2], 2, 3⟩, ⟨[3], 1, 4⟩, ⟨[7, 8], 2, 6⟩] ∧
      ((duet.after duetMoves).bufferAt 0).bytes = [9, 1, 2, 3, 7, 8] ∧
      duet.Tiled 0 duetMoves := by
  have landings : duet.landings duetMoves = [⟨[1, 2], 2, 3⟩, ⟨[3], 1, 4⟩, ⟨[7, 8], 2, 6⟩] := by
    decide +kernel
  have appends : ∀ move ∈ duetMoves, duet.Appends move.id 0 := by
    have first : duet.Appends 0 0 := ⟨_, ⟨_, rfl, rfl, rfl, rfl⟩, rfl⟩
    have second : duet.Appends 1 0 := ⟨_, ⟨_, rfl, rfl, rfl, rfl⟩, rfl⟩
    simp [duetMoves, first, second]
  have succeed : duet.TransfersSucceed duetMoves := by
    simp only [duetMoves, transfersSucceed_cons]
    refine ⟨nofun, nofun, nofun, nofun, fun _ => ⟨.number 2, ?_⟩, ?_⟩
    · decide +kernel
    · rintro (_ | _) _ _ ⟨⟩
  have tiled := appends_tile (by decide) appends succeed
  refine ⟨landings, ?_, tiled⟩
  rw [tiled.content, landings]
  rfl

end Session

end SharedBytes
