import Telemetry.Text.Ranges

/-!
# Scripts

The scripts of Unicode version 16 under their four letters, and the extensions of scripts: the
characters that are used in a script whatever their own script is. An extension is told by what it
and its script do not share.
-/

namespace Telemetry.Character

open Text (Ranges)

/-- The longer names of scripts, in small letters. -/
def scriptAliases : List (String × String) := [
  ("adlam", "Adlm"), ("caucasianalbanian", "Aghb"), ("arabic", "Arab"),
  ("imperialaramaic", "Armi"), ("armenian", "Armn"), ("avestan", "Avst"), ("balinese", "Bali"),
  ("bamum", "Bamu"), ("bassavah", "Bass"), ("batak", "Batk"), ("bengali", "Beng"),
  ("bhaiksuki", "Bhks"), ("bopomofo", "Bopo"), ("brahmi", "Brah"), ("braille", "Brai"),
  ("buginese", "Bugi"), ("buhid", "Buhd"), ("chakma", "Cakm"), ("canadianaboriginal", "Cans"),
  ("carian", "Cari"), ("cherokee", "Cher"), ("chorasmian", "Chrs"), ("coptic", "Copt"),
  ("qaac", "Copt"), ("cyprominoan", "Cpmn"), ("cypriot", "Cprt"), ("cyrillic", "Cyrl"),
  ("devanagari", "Deva"), ("divesakuru", "Diak"), ("dogra", "Dogr"), ("deseret", "Dsrt"),
  ("duployan", "Dupl"), ("egyptianhieroglyphs", "Egyp"), ("elbasan", "Elba"), ("elymaic", "Elym"),
  ("ethiopic", "Ethi"), ("garay", "Gara"), ("georgian", "Geor"), ("glagolitic", "Glag"),
  ("gunjalagondi", "Gong"), ("masaramgondi", "Gonm"), ("gothic", "Goth"), ("grantha", "Gran"),
  ("greek", "Grek"), ("gujarati", "Gujr"), ("gurungkhema", "Gukh"), ("gurmukhi", "Guru"),
  ("hangul", "Hang"), ("han", "Hani"), ("hanunoo", "Hano"), ("hatran", "Hatr"),
  ("hebrew", "Hebr"), ("hiragana", "Hira"), ("anatolianhieroglyphs", "Hluw"),
  ("pahawhhmong", "Hmng"), ("nyiakengpuachuehmong", "Hmnp"), ("oldhungarian", "Hung"),
  ("olditalic", "Ital"), ("javanese", "Java"), ("kayahli", "Kali"), ("katakana", "Kana"),
  ("kharoshthi", "Khar"), ("khmer", "Khmr"), ("khojki", "Khoj"), ("khitansmallscript", "Kits"),
  ("kannada", "Knda"), ("kiratrai", "Krai"), ("kaithi", "Kthi"), ("taitham", "Lana"),
  ("lao", "Laoo"), ("latin", "Latn"), ("lepcha", "Lepc"), ("limbu", "Limb"), ("lineara", "Lina"),
  ("linearb", "Linb"), ("lycian", "Lyci"), ("lydian", "Lydi"), ("mahajani", "Mahj"),
  ("makasar", "Maka"), ("mandaic", "Mand"), ("manichaean", "Mani"), ("marchen", "Marc"),
  ("medefaidrin", "Medf"), ("mendekikakui", "Mend"), ("meroiticcursive", "Merc"),
  ("meroitichieroglyphs", "Mero"), ("malayalam", "Mlym"), ("mongolian", "Mong"), ("mro", "Mroo"),
  ("meeteimayek", "Mtei"), ("multani", "Mult"), ("myanmar", "Mymr"), ("nagmundari", "Nagm"),
  ("nandinagari", "Nand"), ("oldnortharabian", "Narb"), ("nabataean", "Nbat"), ("nko", "Nkoo"),
  ("nushu", "Nshu"), ("ogham", "Ogam"), ("olchiki", "Olck"), ("olonal", "Onao"),
  ("oldturkic", "Orkh"), ("oriya", "Orya"), ("osage", "Osge"), ("osmanya", "Osma"),
  ("olduyghur", "Ougr"), ("palmyrene", "Palm"), ("paucinhau", "Pauc"), ("oldpermic", "Perm"),
  ("phagspa", "Phag"), ("inscriptionalpahlavi", "Phli"), ("psalterpahlavi", "Phlp"),
  ("phoenician", "Phnx"), ("miao", "Plrd"), ("inscriptionalparthian", "Prti"), ("rejang", "Rjng"),
  ("hanifirohingya", "Rohg"), ("runic", "Runr"), ("samaritan", "Samr"),
  ("oldsoutharabian", "Sarb"), ("saurashtra", "Saur"), ("signwriting", "Sgnw"),
  ("shavian", "Shaw"), ("sharada", "Shrd"), ("siddham", "Sidd"), ("khudawadi", "Sind"),
  ("sinhala", "Sinh"), ("sogdian", "Sogd"), ("oldsogdian", "Sogo"), ("sorasompeng", "Sora"),
  ("soyombo", "Soyo"), ("sundanese", "Sund"), ("sunuwar", "Sunu"), ("sylotinagri", "Sylo"),
  ("syriac", "Syrc"), ("tagbanwa", "Tagb"), ("takri", "Takr"), ("taile", "Tale"),
  ("newtailue", "Talu"), ("tamil", "Taml"), ("tangut", "Tang"), ("taiviet", "Tavt"),
  ("telugu", "Telu"), ("tifinagh", "Tfng"), ("tagalog", "Tglg"), ("thaana", "Thaa"),
  ("tibetan", "Tibt"), ("tirhuta", "Tirh"), ("tangsa", "Tnsa"), ("todhri", "Todr"),
  ("tulutigalari", "Tutg"), ("ugaritic", "Ugar"), ("vai", "Vaii"), ("vithkuqi", "Vith"),
  ("warangciti", "Wara"), ("wancho", "Wcho"), ("oldpersian", "Xpeo"), ("cuneiform", "Xsux"),
  ("yezidi", "Yezi"), ("yi", "Yiii"), ("zanabazarsquare", "Zanb"), ("inherited", "Zinh"),
  ("qaai", "Zinh"), ("common", "Zyyy")]

def scriptTexts : List (String × String) := [
  ("Adlm", "2olc-23 4-9 4-1"),
  ("Aghb", "1flc-1f b"),
  ("Ahom", "1j40-q 2-e 4-m"),
  ("Arab",
    "16o-4 1-5 1-d 1-2 1-v 1-9 b-p 1-2z 1-x 28-1b 6o-u 1-1 5-22 1-s 1bv4-36 g-a2 2-27 2-1h 7 w-f
     34-4 1-3q 31f-u 1v-2 1j-3 181s-3 1-q 1-1 1 2 1-9 1-3 1 1 6 4 1 1 1-2 1-1 1 2 1 1 1 1 1-1 1
     2-3 1-6 1-3 1-3 1 1-9 1-g 5-2 1-4 1-g 1g-1"),
  ("Armi", "1g74-l 1-8"),
  ("Armn", "10x-11 2-1d 2-2 1chv-4"),
  ("Avst", "1gqo-1h 3-6"),
  ("Bali", "5c0-24 1-1d"),
  ("Bamu", "www-2f 124o-fs"),
  ("Bass", "1zo0-t 2-5"),
  ("Batk", "5hc-1f 8-3"),
  ("Beng", "1vk-3 1-7 2-1 2-l 1-6 1 3-3 2-8 2-1 2-3 8 4-1 1-4 2-o"),
  ("Bhks", "1k3k-8 1-18 1-d a-s"),
  ("Bopo", "kq-1 93t-16 34-v"),
  ("Brah", "1hq8-25 4-z 9"),
  ("Brai", "7wg-73"),
  ("Bugi", "54w-r 2-1"),
  ("Buhd", "4lc-j"),
  ("Cakm", "1hxc-1g 1-h"),
  ("Cans", "3y8-hr fk-1x 1ewq-f"),
  ("Cari", "1f34-1c"),
  ("Cham", "xkw-1i 9-d 2-9 2-3"),
  ("Cher", "3vk-2d 2-5 twy-27"),
  ("Chrs", "1ho0-r"),
  ("Copt", "rm-d 80g-37 5-6"),
  ("Cpmn", "1nyo-2q"),
  ("Cprt", "1g5c-5 2 1-17 1-1 3 2"),
  ("Cyrl", "sg-3o 2-4o 4ls-a 4g 24 38n-v nr4-2n ham-1 18n4-1p x"),
  ("Deva", "1s0-28 4-e 2-p vhc-v mio-9"),
  ("Diak", "1ji8-6 2 2-7 1-1 1-t 1-1 2-b 9-9"),
  ("Dogr", "1jb4-1n"),
  ("Dsrt", "1fcw-27"),
  ("Dupl", "2fpc-2y 5-c 3-8 7-9 2-3"),
  ("Egyp", "1o1s-ut a-32y"),
  ("Elba", "1fk0-13"),
  ("Elym", "1hpc-m"),
  ("Ethi",
    "3k0-20 1-3 2-6 1 1-3 2-14 1-3 2-w 1-3 2-6 1 1-3 2-e 1-1k 1-3 2-1u 2-v 3-p 546-m 9-6 1-6 1-6
     1-6 1-6 1-6 1-6 1-6 opu-5 2-5 2-5 9-6 1-6 1qk1-6 1-3 1-1 1-e"),
  ("Gara", "1h6o-11 3-s 8-1"),
  ("Geor", "3a8-11 1 5 2-16 1-3 2a8-16 2-2 37k-11 1 5"),
  ("Glag", "8ow-2n 2e1s-6 1-g 2-6 1-1 1-4"),
  ("Gong", "1kdc-5 1-1 1-10 1-1 1-5 7-9"),
  ("Gonm", "1kao-6 1-1 1-17 3 1-1 1-8 8-9"),
  ("Goth", "1f74-q"),
  ("Gran", "1ibk-3 1-7 2-1 2-l 1-6 1-1 1-4 2-8 2-1 2-2 2 6 5-6 2-6 3-4"),
  ("Grek",
    "og-3 1-2 2-3 1 4 1 1-2 1 1-j 1-1q e-f 4yu-4 1e-4 4-4 2c 8w-l 2-5 2-11 2-5 2-7 1 1 1 1-u
     2-1g 1-e 1-d 2-5 1-i 2-2 1-8 87 rb2 gyi-26 h 155r-1x"),
  ("Gujr", "22p-2 1-8 1-2 1-l 1-6 1-1 1-4 2-9 1-2 1-2 2 f-3 2-b 7-6"),
  ("Gukh", "1xq8-1l"),
  ("Guru", "1z5-2 1-5 4-1 2-l 1-6 1-1 1-1 1-1 2 1-4 4-1 2-2 3 7-3 1 7-g"),
  ("Hang", "3cw-73 5ym-1 75-2l 35-u 1t-u nhd-s hv-8mb c-m 4-1c 7tw-u 3-5 2-5 2-5 2-2"),
  ("Hani",
    "96o-p 1-2g c-5x 1b 1 p-8 e-3 qs-533 1s-g73 hkw-a5 2-2x n48-1 c-1 sge-wyn w-37d 6-65 2-4g1
     e-5rk f-h9 1wi-f1 15u-3t6 5-38f"),
  ("Hano", "4kg-k"),
  ("Hatr", "1gbk-i 1-1 5-4"),
  ("Hebr", "13l-1i 8-q 4-5 1cfc-p 1-4 1 1-1 1-1 1-9"),
  ("Hira", "9j5-2d 6-2 23q9-7y i t-2 crx"),
  ("Hluw", "1s00-g6"),
  ("Hmng", "1zpc-1x a-9 1-6 1-k 5-i"),
  ("Hmnp", "2n0g-18 3-d 2-9 4-1"),
  ("Hung", "1h1c-1e d-1e 7-5"),
  ("Ital", "1f5s-z 9-2"),
  ("Java", "xhc-25 2-9 4-1"),
  ("Kali", "xds-19 1"),
  ("Kana", "9lt-2h 2-2 6o-f 5s-1a 1-2f 14b2-9 1-18 ytu-3 1-6 1-1 1 7z-2 1e e-3"),
  ("Kawi", "1kow-g 1-14 3-s"),
  ("Khar", "1gjk-3 1-1 5-7 1-2 1-s 2-2 4-9 7-8"),
  ("Khmr", "4n4-2l 2-9 6-9 di-v"),
  ("Khoj", "1i4g-h 1-1a"),
  ("Kits", "20o4 5cr-d1 15"),
  ("Knda", "2gw-c 1-2 1-m 1-9 1-4 2-8 1-2 1-3 7-1 6-1 1-3 2-9 1-2"),
  ("Krai", "205c-1l"),
  ("Kthi", "1hts-1u a"),
  ("Lana", "55s-1q 1-s 2-a 6-9 6-d"),
  ("Laoo", "2v5-1 1 1-4 1-n 1 1-m 2-4 1 1-6 1-9 2-3"),
  ("Latn",
    "1t-p 6-p 1b f 5-m 1-u 1-cg 13-4 55n-11 6-1c 5-3 5-c 1-1x 1t-73 a9 d g-c 3x-1 6 r h-14 253-v
     o82-2t 3-1u 2-1 1 1-7 l-d mo-16 1-8 1-3 fpy-6 t6-p 6-p 1lx-5 1-15 1-8 16it-u 6-5"),
  ("Lepc", "5j4-1j 3-e 3-2"),
  ("Limb", "4xs-u 1-b 4-b 4 3-b"),
  ("Lina", "1fr4-8m 9-l a-7"),
  ("Linb", "1ekg-b 1-p 1-i 1-1 1-e 2-d y-3e"),
  ("Lisu", "wk0-1b o8g"),
  ("Lyci", "1f28-s"),
  ("Lydi", "1gdc-p 5"),
  ("Mahj", "1hzk-12"),
  ("Maka", "1ko0-o"),
  ("Mand", "1mo-r 2"),
  ("Mani", "1gow-12 4-b"),
  ("Marc", "1k6o-v 2-l 1-d"),
  ("Medf", "20cg-2i"),
  ("Mend", "2oe8-5g 2-f"),
  ("Merc", "1ggw-n 4-j 2-19"),
  ("Mero", "1gg0-v"),
  ("Mlym", "2kg-c 1-2 1-1e 1-2 1-5 4-f 2-p"),
  ("Modi", "1iww-1w b-9"),
  ("Mong", "4qo-1 2 1-j 6-2g 7-16 1e45-c"),
  ("Mroo", "1zk0-u 1-9 4-1"),
  ("Mtei", "xr4-m 5l-19 2-9"),
  ("Mult", "1i80-6 1 1-3 1-e 1-a"),
  ("Mymr", "35s-4f u9s-u 2p-v le8-j"),
  ("Nagm", "2nrk-15"),
  ("Nand", "1jmo-7 2-19 2-a"),
  ("Narb", "1gn4-v"),
  ("Nbat", "1g8w-u 8-8"),
  ("Newa", "1iio-2j 1-4"),
  ("Nkoo", "1j4-1m 2-2"),
  ("Nshu", "20o1 cy6-az"),
  ("Ogam", "4g0-s"),
  ("Olck", "5lc-1b"),
  ("Onao", "2nyo-16 4"),
  ("Orkh", "1gxs-20"),
  ("Orya", "269-2 1-7 2-1 2-l 1-6 1-1 1-4 2-8 2-1 2-2 7-2 4-1 1-4 2-h"),
  ("Osge", "1fhs-z 4-z"),
  ("Osma", "1fgg-t 2-9"),
  ("Ougr", "1hm8-p"),
  ("Palm", "1g80-v"),
  ("Pauc", "1juo-1k"),
  ("Perm", "1f80-16"),
  ("Phag", "x8g-1j"),
  ("Phli", "1gtc-i 5-7"),
  ("Phlp", "1gu8-h 7-3 c-6"),
  ("Phnx", "1gcg-r 3"),
  ("Plrd", "20hs-22 4-1k 7-g"),
  ("Prti", "1gsg-l 2-7"),
  ("Rjng", "xf4-z b"),
  ("Rohg", "1h4w-13 8-9"),
  ("Runr", "4gw-22 3-a"),
  ("Samr", "1kw-19 2-e"),
  ("Sarb", "1gm8-v"),
  ("Saur", "xa8-1x 8-b"),
  ("Sgnw", "2l8g-i3 f-4 1-e"),
  ("Shaw", "1ff4-1b"),
  ("Shrd", "1i0w-2n"),
  ("Sidd", "1itc-1h 2-11"),
  ("Sind", "1i9c-1m 5-9"),
  ("Sinh", "2o1-2 1-h 3-n 1-8 1 2-6 3 4-5 1 1-7 6-9 2-2 1fcc-j"),
  ("Sogd", "1hkg-15"),
  ("Sogo", "1hj4-13"),
  ("Sora", "1hw0-o 7-9"),
  ("Soyo", "1jrk-2a"),
  ("Sund", "5fk-1r 74-7"),
  ("Sunu", "1k1s-x e-9"),
  ("Sylo", "x6o-18"),
  ("Syrc", "1ds-d 1-1n 2-2 7k-a"),
  ("Tagb", "4m8-c 1-2 1-1"),
  ("Takr", "1j0g-1l 6-9"),
  ("Tale", "500-t 2-4"),
  ("Talu", "51c-17 4-p 6-a 3-1"),
  ("Taml", "29u-1 1-5 3-2 1-3 3-1 1 1-1 3-1 3-2 3-b 4-4 3-2 1-3 2 6 e-k 1ih1-1d d"),
  ("Tang", "20o0 v-4qf 8-lb e8-8"),
  ("Tavt", "xog-1u o-4"),
  ("Telu", "2dc-c 1-2 1-m 1-f 2-8 1-2 1-3 7-1 1-2 2 2-3 2-9 7-8"),
  ("Tfng", "8xc-1j 7-1 e"),
  ("Tglg", "4jk-l 9"),
  ("Thaa", "1hc-1d"),
  ("Thai", "2rl-1l 5-r"),
  ("Tibt", "2yo-1z 1-z 4-12 1-z 1-e 1-6 4-1"),
  ("Tirh", "1im8-1z 8-9"),
  ("Tnsa", "1zlc-26 1-9"),
  ("Todr", "1fpc-1f"),
  ("Toto", "2nbk-u"),
  ("Tutg", "1if4-9 1 2 1-11 1-9 1 2 1-3 1-9 1-1 8-1"),
  ("Ugar", "1f9c-t 1"),
  ("Vaii", "wlc-8b"),
  ("Vith", "1fn4-a 1-e 1-6 1-1 1-a 1-e 1-6 1-1"),
  ("Wara", "1jfk-2a c"),
  ("Wcho", "2ncw-1l 5"),
  ("Xpeo", "1fa8-z 4-d"),
  ("Xsux", "1kw0-pl 2u-32 1-4 b-5f"),
  ("Yezi", "1hfk-15 1-2 2-1"),
  ("Yiii", "vls-wc 3-1i"),
  ("Zanb", "1jpc-1z"),
  ("Zinh",
    "lc-33 7p-1 ck-a q kg-3 3ff-u e9-2 1-c 1-6 4 6 3-1 5i-1r ek-1 5e-w 309-3 2z-1 14kl-f g-d r3
     6a 38a 1138-19 2-m f4-2 h-7 2-6 u-3 h45u-6n"),
  ("Zyyy",
    "0-1s q-5 q-1a 1-e 1-4 n v ch-12 5-4 2-j 38 9 6 1 hp 6 e 3 w 4c ec 3l-1 yh b9-3 82 167-2
     1z-1 5n-1 1 y5 d 7-3 1-5 1-2 2 lh-b 2-2e 1-a 3-a 1-e h-w 1r-11 1-2 2-5 1-q 1-g 15-2 4-ih
     m-a l-pr 74-hf 2-v 1-2w e8-2l b6-k 1 1-o f-7 4-3 2j-1 3 2i-1 43-f w-11 9 1c-1r v-28 1b
     2g-4n 534-1r hkw-x 2u-2 4l-9 6s 4g az e-1 g5u-1 5s-9 m-y 1-i 1-3 43 1-v q-5 q-a a 19-1 1s-6
     1-6 a-4 76-2 4-18 3-8 28-c 1f-18 6c-q 10o4-3 318-6x 6-c3 4c-37 1o-6t a-12 2-1p 3-g 8-1 7-t
     4-1o 5x-j c-j c-2e 9-o 3r-2c 1-1y 1-1 2 2-1 2-3 1-b 1 1-6 1-1s 1-3 2-7 1-6 1-r 1-3 1-4 1
     3-6 1-9f 2-83 2-1d 41d-1v 24-1o jm-17 4-2r c-e 2-e 1-e 1-10 a-4t 1k-p 1-1 d-17 4-8 7-1 e-5
     4a-rb 4-g 3-c 3-3a 4-2m 6-b 4 f-b 4-1j 8-9 6-13 8-t 2-b 4-1 1q-9f c-d 2-c 3-9 5-1j 7-e 2-a
     6-8 7-42 1-2t gvlz u-2n")]

def extensionTexts : List (String × String) := [
  ("Adlm", "17j w 55a 2r5"),
  ("Aghb", "lg 18 18"),
  ("Arab", "170 e 3 w a-a q 53y 2r5 14vw-1 140-r"),
  ("Armn", "lk"),
  ("Avst", "53 8zc-1"),
  ("Beng", "jg 1as-1 h-1 3u2 1 2-1 1 8 8 2 4 2-2 rnd"),
  ("Bopo", "jr 1-2 d 8x3-2 4-9 1-c a-3 2 6 5f 14jt-1 7u-4"),
  ("Bugi", "xjj"),
  ("Buhd", "4l1-1"),
  ("Cakm", "1ye-9 18w-9"),
  ("Cari", "53 68y 2 2qb"),
  ("Cher", "lc-2 1 6-1 m-1 b-1"),
  ("Copt", "53 g8 3-1 1 30-1 8f5 1614-r"),
  ("Cpmn", "1erk-1"),
  ("Cprt", "1erk-2 4-18 3-8"),
  ("Cyrl", "jg 1v-2 1 1 1 2 5 ab-1 50x 37u"),
  ("Deva", "jg 1as-1 h-1 3u2-12 1-1 s6 qpr-9"),
  ("Dogr", "1us-b vcw-9"),
  ("Dupl", "53 gf-1 1 o-1 8if 26oz-3"),
  ("Elba", "53 gd"),
  ("Ethi", "lq"),
  ("Gara", "170 e 3"),
  ("Geor", "53 y9 29d 31a 2qe"),
  ("Glag", "53 gb 1 am 2 75 29d 31a 2qw nqj"),
  ("Gong", "53 1po-1"),
  ("Gonm", "1us-1"),
  ("Goth", "53 gc-1 2 14"),
  ("Gran", "1u9-1 h-1 hs-d 3bw 1-1 u-2 3-1 s6 1buy 2hg-1 1"),
  ("Grek", "53 g8-1 2 1 1 a 1a 2 1a 56z-1 ij"),
  ("Gujr", "1u9-1 h-1 vd6-9"),
  ("Gukh", "1ut"),
  ("Guru", "1u9-1 h-1 vd6-9"),
  ("Hang", "9hd-2 4-9 1-c g 6 5f 14jt-1 7u-4"),
  ("Hani",
    "53 9bs-f 1-2 2 1-9 1-c a-3 2 6 4-3 57 44-f w-11 9 1c-13 1k-1c f-b 1f 2g-o a-4 2o-u mpt-7
     h8d-1 7u-4 15ve-h 63i-1"),
  ("Hano", "4l1-1"),
  ("Hebr", "lj-1"),
  ("Hira", "9hd-2 4-9 1-c g-5 1 4-1 2j-3 3 2i-1 14js-1 7u-4 a 19-1"),
  ("Hung", "6e2 2 2qb f"),
  ("Java", "xjj"),
  ("Kali", "xf2"),
  ("Kana", "lh t 8v1-2 4-9 1-c g-5 1 4-1 2j-3 3 2i-1 14js-1 7u-4 a 19-1"),
  ("Khoj", "25i-9 v28-9"),
  ("Knda", "1u9-1 h-1 3u2 1-1 6 n 1 ri3-5"),
  ("Kthi", "1uu-9 79d o3i-9"),
  ("Latn",
    "53 ec a 1-2 1 9 1 12-e 1-1 1 f-2 7-1 1-1 12 5 4-c 7p-1 y2-1 1ig 2kc fq 5c 2li nvs-7 fa"),
  ("Limb", "1ut"),
  ("Lina", "1err-18"),
  ("Linb", "1erk-2 4-18 3-8"),
  ("Lisu", "jg g 8xo-1"),
  ("Lyci", "6e2"),
  ("Lydi", "53 8zd"),
  ("Mahj", "53 1po-b vcw-9"),
  ("Mand", "18g"),
  ("Mani", "18g"),
  ("Mero", "6e5"),
  ("Mlym", "1u9-1 h-1 3uc n ri5-2"),
  ("Modi", "x80-9"),
  ("Mong", "4qq-1 1 1m1 34h-1 5-3"),
  ("Mult", "21y-9"),
  ("Mymr", "xf2"),
  ("Nand", "1u9 i-1 ow-9 35l 8 7 rhx-5"),
  ("Newa", "1u9-1 3uq 1-1 9 6 1 1"),
  ("Nkoo", "170 e 3 1cta-1"),
  ("Onao", "1us-1"),
  ("Orkh", "6e2 2qd"),
  ("Orya", "1u9-1 h-1 3uc n"),
  ("Osge", "ld 2 6 24"),
  ("Ougr", "18g 1fht"),
  ("Perm", "53 g8 5-2 a a7"),
  ("Phag", "4qq-1 1 1m1 34i"),
  ("Phlp", "18g"),
  ("Rohg", "170 e 3 w 43"),
  ("Runr", "4iz-2"),
  ("Samr", "94h"),
  ("Shaw", "53"),
  ("Shrd", "1u9 3ut 1 2-1 2 9 2 ria-5 2"),
  ("Sind", "1us-1 vd6-9"),
  ("Sinh", "1us-1 3v0"),
  ("Sogd", "18g"),
  ("Sunu", "lc-1 1 9 2 s 3"),
  ("Sylo", "1us-1 3k-9"),
  ("Syrc", "lf-1 2-1 1 o-2 7-1 1-1 ka e-1 2 w a-a q 4nb 1"),
  ("Tagb", "4l1-1"),
  ("Takr", "1us-1 vd6-9"),
  ("Tale", "lc-1 5-1 3 2lv-9"),
  ("Taml", "1u9-1 h-1 3uc ro8 ky5 1 1j-1"),
  ("Tang", "9gw-f dr"),
  ("Telu", "1u9-1 h-1 3u7-1 1 1 n"),
  ("Tfng", "le 1 1-3 p"),
  ("Tglg", "4l1-1"),
  ("Thaa", "170 e-1 2 1s-9 1cw8 a"),
  ("Thai", "jg q 17 19"),
  ("Tibt", "9hk-3"),
  ("Tirh", "1u9-1 h-1 3u7 c f ri5-9"),
  ("Todr", "ld 2 2 9 1 22"),
  ("Toto", "jg"),
  ("Tutg", "2jq-9 35u 1 ri3-5 57"),
  ("Yezi", "170 e 3 1s-9"),
  ("Yiii", "9hd-1 5-9 2-7 67 14rp-4"),
  ("Zinh",
    "lc-e 1-1 1 f-2 7-1 1-1 g 2 i 5 4-c 7p-1 ck-a q kg-1 3ul-2 1-c 1-6 4 6 3-1 5i-1 1i 1 l1
     309-3 2z-1 15j9 38a"),
  ("Zyyy",
    "53 ec a 1-2 1 9 1 4a if e 3 w mb-1 1hx 167-2 1z-1 5n-1 1 y5 d 7-3 1-5 1-2 2 ms v a 2 2pl
     o-1 a 4 1 bw-f 1-2 2 1-9 1-c g-5 1 4-3 2j-1 3 2i-1 43-f w-11 9 1c-13 1k-1c f-b 1f 2g-o a-4
     2o-u mpt-7 88-9 6s 4g gha-1 79-1 7u-4 a 19-1 9s-2 4-18 3-8 bl-q 10o4-3 4ho-h 63i-1")]

/-- The four letters of a script, by any of its names. -/
def scriptCode? (name : String) : Option String :=
  match scriptTexts.find? fun (code, _) => String.ofList (code.toList.map Char.toLower) = name with
  | some (code, _) => some code
  | none => scriptAliases.lookup name

def script? (name : String) : Option Ranges :=
  (scriptCode? name).map fun code => Ranges.ofText ((scriptTexts.lookup code).getD "")

def scriptExtension? (name : String) : Option Ranges :=
  (scriptCode? name).map fun code =>
    Ranges.symmetricDifference (Ranges.ofText ((scriptTexts.lookup code).getD ""))
      (Ranges.ofText ((extensionTexts.lookup code).getD ""))

end Telemetry.Character
