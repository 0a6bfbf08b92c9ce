/-!
Powers of naturals. A bound such as `2 ^ 64` is the core library's power of naturals in every
module, also in those that see the powers of monoids.
-/

attribute [default_instance 20000, instance (20000)] instPowNat
