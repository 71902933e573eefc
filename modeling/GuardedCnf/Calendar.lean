/-! # The calendar — the instants that a time limit can reach

    An instant is the number of milliseconds since the beginning of 1970.  The
    calendar goes from the year -262143 to the year 262142; a limit that ends
    outside of it cannot be set. -/

namespace GuardedCnf.Calendar

/-- The first instant, at the beginning of the year -262143. -/
def first : Int := -8334601228800000

/-- The last instant, at the end of the year 262142. -/
def last : Int := 8210266876799999

/-- Whether the calendar has the instant `ms` milliseconds after another. -/
def reaches (start ms : Int) : Bool := first ≤ start + ms && start + ms ≤ last

end GuardedCnf.Calendar
