-- SUMMARY: Insertion into an ascending list without equals.

/-! # Ordered lists -/

namespace SipDialogs.Ordered

/-- Puts an item in its place in an ascending list, or in the place of its equal. -/
def insert (before : α → α → Bool) (a : α) : List α → List α
  | [] => [a]
  | b :: bs =>
    if before a b then a :: b :: bs
    else if before b a then b :: insert before a bs
    else a :: bs

end SipDialogs.Ordered
