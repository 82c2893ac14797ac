import Swarm.Tracker.Response

/-!
A tracker held in memory: replies in a fixed order, the last of which is given again and again, and
a record of the URLs that were asked for.
-/

namespace Swarm.Scenario

open Swarm.Tracker (HttpReply Request Response TrackerError announce)

structure Tracker where
  replies : List (Except String HttpReply)
  /-- The URLs asked for, the latest first. -/
  asked : List String

namespace Tracker

def ofReplies (replies : List (Except String HttpReply)) : Tracker := ⟨replies, []⟩

def fetch (url : String) (s : Tracker) : Except String HttpReply × Tracker :=
  match s.replies with
  | [] => (.error "no canned response", { s with asked := url :: s.asked })
  | [last] => (last, { s with asked := url :: s.asked })
  | reply :: more => (reply, ⟨more, url :: s.asked⟩)

def urls (s : Tracker) : List String := s.asked.reverse

def announceAll : List (String × Request) → Tracker →
    List (Except TrackerError Response) × Tracker
  | [], s => ([], s)
  | (url, request) :: more, s =>
    let (result, s) := announce fetch url request s
    let (results, s) := announceAll more s
    (result :: results, s)

end Tracker

end Swarm.Scenario
