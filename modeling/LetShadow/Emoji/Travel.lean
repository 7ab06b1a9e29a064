/-
**Vehicles, roads and signs by the road.**

* `travel` — the emoji of this kind, with their names.
-/

import LetShadow.Emoji.Entry

namespace LetShadow.Emoji

/-- Vehicles, roads and signs by the road. -/
def travel : List Entry :=
  [
    ⟨"🚀", ["rocket"]⟩, ⟨"🚁", ["helicopter"]⟩, ⟨"🚂", ["locomotive", "steam_locomotive"]⟩,
    ⟨"🚃", ["railway_car"]⟩, ⟨"🚄", ["high-speed_train", "bullettrain_side"]⟩,
    ⟨"🚅", ["bullet_train", "bullettrain_front"]⟩, ⟨"🚆", ["train2"]⟩, ⟨"🚇", ["metro"]⟩,
    ⟨"🚈", ["light_rail"]⟩, ⟨"🚉", ["station"]⟩, ⟨"🚊", ["tram"]⟩, ⟨"🚋", ["train", "tram_car"]⟩,
    ⟨"🚌", ["bus"]⟩, ⟨"🚍", ["oncoming_bus"]⟩, ⟨"🚎", ["trolleybus"]⟩, ⟨"🚏", ["bus_stop", "busstop"]⟩,
    ⟨"🚐", ["minibus"]⟩, ⟨"🚑", ["ambulance"]⟩, ⟨"🚒", ["fire_engine"]⟩, ⟨"🚓", ["police_car"]⟩,
    ⟨"🚔", ["oncoming_police_car"]⟩, ⟨"🚕", ["taxi"]⟩, ⟨"🚖", ["oncoming_taxi"]⟩,
    ⟨"🚗", ["automobile", "car", "red_car"]⟩, ⟨"🚘", ["oncoming_automobile"]⟩,
    ⟨"🚙", ["sport_utility_vehicle", "blue_car"]⟩, ⟨"🚚", ["delivery_truck", "truck"]⟩,
    ⟨"🚛", ["articulated_lorry"]⟩, ⟨"🚜", ["tractor"]⟩, ⟨"🚝", ["monorail"]⟩,
    ⟨"🚞", ["mountain_railway"]⟩, ⟨"🚟", ["suspension_railway"]⟩, ⟨"🚠", ["mountain_cableway"]⟩,
    ⟨"🚡", ["aerial_tramway"]⟩, ⟨"🚢", ["ship"]⟩, ⟨"🚣", ["person_rowing_boat", "rowboat"]⟩,
    ⟨"🚤", ["speedboat"]⟩, ⟨"🚥", ["horizontal_traffic_light", "traffic_light"]⟩,
    ⟨"🚦", ["vertical_traffic_light"]⟩, ⟨"🚧", ["construction"]⟩,
    ⟨"🚨", ["police_car_light", "rotating_light"]⟩,
    ⟨"🚩", ["triangular_flag", "triangular_flag_on_post"]⟩, ⟨"🚪", ["door"]⟩,
    ⟨"🚫", ["prohibited", "no_entry_sign"]⟩, ⟨"🚬", ["cigarette", "smoking"]⟩, ⟨"🚭", ["no_smoking"]⟩,
    ⟨"🚮", ["litter_in_bin_sign", "put_litter_in_its_place"]⟩,
    ⟨"🚯", ["no_littering", "do_not_litter"]⟩, ⟨"🚰", ["potable_water"]⟩,
    ⟨"🚱", ["non-potable_water", "non__potable_water"]⟩, ⟨"🚲", ["bicycle", "bike"]⟩,
    ⟨"🚳", ["no_bicycles"]⟩, ⟨"🚴", ["person_biking", "bicyclist"]⟩,
    ⟨"🚵", ["person_mountain_biking", "mountain_bicyclist"]⟩, ⟨"🚶", ["person_walking", "walking"]⟩,
    ⟨"🚷", ["no_pedestrians"]⟩, ⟨"🚸", ["children_crossing"]⟩, ⟨"🚹", ["men’s_room", "mens"]⟩,
    ⟨"🚺", ["women’s_room", "womens"]⟩, ⟨"🚻", ["restroom"]⟩, ⟨"🚼", ["baby_symbol"]⟩,
    ⟨"🚽", ["toilet"]⟩, ⟨"🚾", ["water_closet", "wc"]⟩, ⟨"🚿", ["shower"]⟩,
    ⟨"🛀", ["person_taking_bath", "bath"]⟩, ⟨"🛁", ["bathtub"]⟩, ⟨"🛂", ["passport_control"]⟩,
    ⟨"🛃", ["customs"]⟩, ⟨"🛄", ["baggage_claim"]⟩, ⟨"🛅", ["left_luggage"]⟩,
    ⟨"🛋", ["couch_and_lamp"]⟩, ⟨"🛌", ["person_in_bed", "sleeping_accommodation"]⟩,
    ⟨"🛍", ["shopping_bags"]⟩, ⟨"🛎", ["bellhop_bell"]⟩, ⟨"🛏", ["bed"]⟩, ⟨"🛐", ["place_of_worship"]⟩,
    ⟨"🛑", ["stop_sign"]⟩, ⟨"🛒", ["shopping_cart"]⟩, ⟨"🛕", ["hindu_temple"]⟩,
    ⟨"🛠", ["hammer_and_wrench"]⟩, ⟨"🛡", ["shield"]⟩, ⟨"🛢", ["oil_drum"]⟩, ⟨"🛣", ["motorway"]⟩,
    ⟨"🛤", ["railway_track"]⟩, ⟨"🛥", ["motor_boat"]⟩, ⟨"🛩", ["small_airplane"]⟩,
    ⟨"🛫", ["airplane_departure"]⟩, ⟨"🛬", ["airplane_arrival", "airplane_arriving"]⟩,
    ⟨"🛳", ["passenger_ship"]⟩, ⟨"🛴", ["kick_scooter"]⟩, ⟨"🛵", ["motor_scooter"]⟩, ⟨"🛶", ["canoe"]⟩,
    ⟨"🛷", ["sled"]⟩, ⟨"🛸", ["flying_saucer"]⟩, ⟨"🛹", ["skateboard"]⟩, ⟨"🛺", ["auto_rickshaw"]⟩ ]

end LetShadow.Emoji
