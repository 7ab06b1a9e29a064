/-
**Food and drink.**

* `food` — the emoji of this kind, with their names.
-/

import LetShadow.Emoji.Entry

namespace LetShadow.Emoji

/-- Food and drink. -/
def food : List Entry :=
  [
    ⟨"🌭", ["hot_dog"]⟩, ⟨"🌮", ["taco"]⟩, ⟨"🌯", ["burrito"]⟩, ⟨"🍅", ["tomato"]⟩, ⟨"🍆", ["eggplant"]⟩,
    ⟨"🍇", ["grapes"]⟩, ⟨"🍈", ["melon"]⟩, ⟨"🍉", ["watermelon"]⟩, ⟨"🍊", ["tangerine"]⟩,
    ⟨"🍋", ["lemon"]⟩, ⟨"🍌", ["banana"]⟩, ⟨"🍍", ["pineapple"]⟩, ⟨"🍎", ["red_apple", "apple"]⟩,
    ⟨"🍏", ["green_apple"]⟩, ⟨"🍐", ["pear"]⟩, ⟨"🍑", ["peach"]⟩, ⟨"🍒", ["cherries"]⟩,
    ⟨"🍓", ["strawberry"]⟩, ⟨"🍔", ["hamburger"]⟩, ⟨"🍕", ["pizza"]⟩, ⟨"🍖", ["meat_on_bone"]⟩,
    ⟨"🍗", ["poultry_leg"]⟩, ⟨"🍘", ["rice_cracker"]⟩, ⟨"🍙", ["rice_ball"]⟩,
    ⟨"🍚", ["cooked_rice", "rice"]⟩, ⟨"🍛", ["curry_rice", "curry"]⟩,
    ⟨"🍜", ["steaming_bowl", "ramen"]⟩, ⟨"🍝", ["spaghetti"]⟩, ⟨"🍞", ["bread"]⟩,
    ⟨"🍟", ["french_fries", "fries"]⟩, ⟨"🍠", ["roasted_sweet_potato", "sweet_potato"]⟩,
    ⟨"🍡", ["dango"]⟩, ⟨"🍢", ["oden"]⟩, ⟨"🍣", ["sushi"]⟩, ⟨"🍤", ["fried_shrimp"]⟩,
    ⟨"🍥", ["fish_cake_with_swirl", "fish_cake"]⟩, ⟨"🍦", ["soft_ice_cream", "icecream"]⟩,
    ⟨"🍧", ["shaved_ice"]⟩, ⟨"🍨", ["ice_cream"]⟩, ⟨"🍩", ["doughnut"]⟩, ⟨"🍪", ["cookie"]⟩,
    ⟨"🍫", ["chocolate_bar"]⟩, ⟨"🍬", ["candy"]⟩, ⟨"🍭", ["lollipop"]⟩, ⟨"🍮", ["custard"]⟩,
    ⟨"🍯", ["honey_pot"]⟩, ⟨"🍰", ["shortcake", "cake"]⟩, ⟨"🍱", ["bento_box", "bento"]⟩,
    ⟨"🍲", ["pot_of_food", "stew"]⟩, ⟨"🍳", ["cooking", "egg"]⟩, ⟨"🍴", ["fork_and_knife"]⟩,
    ⟨"🍵", ["teacup_without_handle", "tea"]⟩, ⟨"🍶", ["sake"]⟩, ⟨"🍷", ["wine_glass"]⟩,
    ⟨"🍸", ["cocktail_glass", "cocktail"]⟩, ⟨"🍹", ["tropical_drink"]⟩, ⟨"🍺", ["beer_mug", "beer"]⟩,
    ⟨"🍻", ["clinking_beer_mugs", "beers"]⟩, ⟨"🍼", ["baby_bottle"]⟩,
    ⟨"🍽", ["fork_and_knife_with_plate"]⟩, ⟨"🍾", ["bottle_with_popping_cork"]⟩, ⟨"🍿", ["popcorn"]⟩,
    ⟨"🥐", ["croissant"]⟩, ⟨"🥑", ["avocado"]⟩, ⟨"🥒", ["cucumber"]⟩, ⟨"🥓", ["bacon"]⟩,
    ⟨"🥔", ["potato"]⟩, ⟨"🥕", ["carrot"]⟩, ⟨"🥖", ["baguette_bread"]⟩, ⟨"🥗", ["green_salad"]⟩,
    ⟨"🥘", ["shallow_pan_of_food"]⟩, ⟨"🥙", ["stuffed_flatbread"]⟩, ⟨"🥛", ["glass_of_milk"]⟩,
    ⟨"🥜", ["peanuts"]⟩, ⟨"🥝", ["kiwi_fruit"]⟩, ⟨"🥞", ["pancakes"]⟩, ⟨"🥟", ["dumpling"]⟩,
    ⟨"🥠", ["fortune_cookie"]⟩, ⟨"🥡", ["takeout_box"]⟩, ⟨"🥢", ["chopsticks"]⟩,
    ⟨"🥣", ["bowl_with_spoon"]⟩, ⟨"🥤", ["cup_with_straw"]⟩, ⟨"🥥", ["coconut"]⟩, ⟨"🥦", ["broccoli"]⟩,
    ⟨"🥧", ["pie"]⟩, ⟨"🥨", ["pretzel"]⟩, ⟨"🥩", ["cut_of_meat"]⟩, ⟨"🥪", ["sandwich"]⟩,
    ⟨"🥫", ["canned_food"]⟩, ⟨"🥬", ["leafy_green"]⟩, ⟨"🥭", ["mango"]⟩, ⟨"🥮", ["moon_cake"]⟩,
    ⟨"🥯", ["bagel"]⟩, ⟨"🧀", ["cheese_wedge"]⟩, ⟨"🧁", ["cupcake"]⟩, ⟨"🧂", ["salt"]⟩,
    ⟨"🧃", ["beverage_box"]⟩, ⟨"🧄", ["garlic"]⟩, ⟨"🧅", ["onion"]⟩, ⟨"🧆", ["falafel"]⟩,
    ⟨"🧇", ["waffle"]⟩, ⟨"🧈", ["butter"]⟩, ⟨"🧉", ["mate"]⟩, ⟨"🧊", ["ice"]⟩ ]

end LetShadow.Emoji
